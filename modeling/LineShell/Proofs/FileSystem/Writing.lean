import LineShell.FileSystem.Access
import Mathlib.Tactic.Common

/-!
# Writing to a path

**Walks.**  `Walks` relates a path to where it leads, with one rule for each kind of step.  It is
what `FileSystem.walk` answers (`FileSystem.walk_eq_ok_iff`), and what the rest of this module
argues by.

**Walking after a write.**  A walk that ends at a file or at a free name has gone through
directories and links on the way, and a write changes none of them.  So after the write the same
path leads to the file, with its new contents (`Walks.put`).

**Opening and writing.**  `FileSystem.write` is split in two: opening, which finds a file (an
empty one where the name is free) or a device, and writing to what was opened.
-/

namespace LineShell

/-! ## Placing an entry -/

namespace FileSystem

lemma lookup_cons (q r : Place) (d : Entry) (rest : List (Place × Entry)) :
    ((r, d) :: rest).lookup q = if q = r then some d else rest.lookup q := by
  by_cases hq : q = r
  · subst hq
    rw [List.lookup_cons_self, if_pos rfl]
  · rw [List.lookup_cons, beq_eq_false_iff_ne.mpr hq, if_neg hq]

lemma lookup_putEntry (p : Place) (e : Entry) (q : Place) :
    ∀ entries : List (Place × Entry),
      (putEntry p e entries).lookup q = if q = p then some e else entries.lookup q
  | [] => by rw [putEntry, lookup_cons]
  | (r, d) :: rest => by
      have ih := lookup_putEntry p e q rest
      by_cases hr : r = p
      · subst hr
        rw [putEntry, if_pos rfl, lookup_cons, lookup_cons]
        by_cases hq : q = r <;> simp [hq]
      · rw [putEntry, if_neg hr, lookup_cons, lookup_cons, ih]
        by_cases hq : q = r
        · simp [hq, hr]
        · simp [hq]

/-- Nothing but the place itself is changed.  The root has no entry to change. -/
lemma find?_put (fs : FileSystem) {p : Place} (hp : p ≠ []) (e : Entry) (q : Place) :
    (fs.put p e).find? q = if q = p then some e else fs.find? q := by
  by_cases hq : q = []
  · subst hq
    rw [if_neg (Ne.symm hp)]
    rfl
  · simp [find?, put, hq, lookup_putEntry]

end FileSystem

/-! ## Walks -/

/-- A step of a path that is looked up in a directory. -/
def Text.IsName (name : Text) : Prop :=
  name ≠ ['.'] ∧ name ≠ ['.', '.'] ∧ Utf8.size name ≤ nameLimit

namespace Located

/-- The place that a path leads to, whether there is an entry or not. -/
def place : Located → Place
  | found place _ => place
  | free directory name => directory ++ [name]

/-- The entry that a path leads to. -/
def entry? : Located → Option Entry
  | found _ entry => some entry
  | free _ _ => none

/-- A file, or a name that is free for one. -/
def IsFile (loc : Located) : Prop :=
  ∀ entry, loc.entry? = some entry → ∃ contents, entry = .file contents

lemma IsFile.not_directory {loc : Located} (h : loc.IsFile) : loc.entry? ≠ some .directory := by
  intro hdir
  obtain ⟨_, ⟨⟩⟩ := h _ hdir

end Located

/-- `Walks fs follow links dir steps loc`: the steps lead from `dir` to `loc`, through at most
    `links` links. -/
inductive Walks (fs : FileSystem) (follow : Bool) : Nat → Place → List Text → Located → Prop
  | stop (links : Nat) (dir : Place) : Walks fs follow links dir [] (.found dir .directory)
  | stay {links : Nat} {dir : Place} {rest : List Text} {loc : Located} :
      Walks fs follow links dir rest loc → Walks fs follow links dir (['.'] :: rest) loc
  | up {links : Nat} {dir : Place} {rest : List Text} {loc : Located} :
      Walks fs follow links dir.dropLast rest loc →
      Walks fs follow links dir (['.', '.'] :: rest) loc
  | enter {links : Nat} {dir : Place} {name : Text} {rest : List Text} {loc : Located} :
      name.IsName → fs.find? (dir ++ [name]) = some .directory →
      Walks fs follow links (dir ++ [name]) rest loc → Walks fs follow links dir (name :: rest) loc
  | through {links : Nat} {dir : Place} {name target : Text} {rest : List Text} {loc : Located} :
      name.IsName → fs.find? (dir ++ [name]) = some (.link target) →
      (rest.isEmpty && !follow) = false →
      Walks fs follow links (if target.head? = some '/' then [] else dir)
        (pathSteps target ++ rest) loc →
      Walks fs follow (links + 1) dir (name :: rest) loc
  /-- A link at the end that is not followed. -/
  | link (links : Nat) {dir : Place} {name target : Text} :
      name.IsName → fs.find? (dir ++ [name]) = some (.link target) → follow = false →
      Walks fs follow links dir [name] (.found (dir ++ [name]) (.link target))
  | entry (links : Nat) {dir : Place} {name : Text} {entry : Entry} :
      name.IsName → fs.find? (dir ++ [name]) = some entry → entry ≠ .directory →
      (∀ target, entry ≠ .link target) →
      Walks fs follow links dir [name] (.found (dir ++ [name]) entry)
  | free (links : Nat) {dir : Place} {name : Text} :
      name.IsName → fs.find? (dir ++ [name]) = none →
      Walks fs follow links dir [name] (.free dir name)

namespace FileSystem

variable {fs : FileSystem} {follow : Bool} {links : Nat} {dir : Place} {steps : List Text}
  {loc : Located}

lemma walks_of_walk (h : fs.walk follow links dir steps = .ok loc) :
    Walks fs follow links dir steps loc := by
  fun_induction walk fs follow links dir steps with
  | case1 links dir =>
      cases h
      exact .stop links dir
  | case2 links dir rest ih => exact .stay (ih h)
  | case3 links dir rest _ ih => exact .up (ih h)
  | case4 | case6 | case9 | case12 => cases h
  | case5 links dir name rest hdot hup hsize hfind hrest =>
      cases h
      obtain rfl := List.isEmpty_iff.mp hrest
      exact .free links ⟨hdot, hup, Nat.le_of_not_gt hsize⟩ hfind
  | case7 links dir name rest hdot hup hsize hfind ih =>
      exact .enter ⟨hdot, hup, Nat.le_of_not_gt hsize⟩ hfind (ih h)
  | case8 links dir name rest hdot hup hsize target hfind hlast =>
      cases h
      simp only [Bool.and_eq_true, List.isEmpty_iff, Bool.not_eq_true'] at hlast
      obtain ⟨rfl, hfollow⟩ := hlast
      exact .link links ⟨hdot, hup, Nat.le_of_not_gt hsize⟩ hfind hfollow
  | case10 dir name rest hdot hup hsize target hfind hlast left ih =>
      exact .through ⟨hdot, hup, Nat.le_of_not_gt hsize⟩ hfind (by simpa using hlast) (ih h)
  | case11 links dir name rest hdot hup hsize entry hdir hlink hfind hrest =>
      cases h
      obtain rfl := List.isEmpty_iff.mp hrest
      exact .entry links ⟨hdot, hup, Nat.le_of_not_gt hsize⟩ hfind hdir hlink

lemma walk_of_walks (h : Walks fs follow links dir steps loc) :
    fs.walk follow links dir steps = .ok loc := by
  induction h with
  | stop links dir => rw [walk]
  | stay _ ih => rw [walk, if_pos rfl, ih]
  | up _ ih => rw [walk, if_neg (by decide), if_pos rfl, ih]
  | enter hname hfind _ ih =>
      rw [walk, if_neg hname.1, if_neg hname.2.1, if_neg (Nat.not_lt.mpr hname.2.2), hfind]
      exact ih
  | through hname hfind hlast _ ih =>
      rw [walk, if_neg hname.1, if_neg hname.2.1, if_neg (Nat.not_lt.mpr hname.2.2), hfind]
      simp only [hlast, Bool.false_eq_true, if_false]
      exact ih
  | link links hname hfind hfollow =>
      rw [walk, if_neg hname.1, if_neg hname.2.1, if_neg (Nat.not_lt.mpr hname.2.2), hfind]
      simp [hfollow]
  | @entry links dir name entry hname hfind hdir hlink =>
      rw [walk, if_neg hname.1, if_neg hname.2.1, if_neg (Nat.not_lt.mpr hname.2.2), hfind]
      cases entry with
      | directory => exact absurd rfl hdir
      | link target => exact absurd rfl (hlink target)
      | file | null | full => rfl
  | free links hname hfind =>
      rw [walk, if_neg hname.1, if_neg hname.2.1, if_neg (Nat.not_lt.mpr hname.2.2), hfind]
      rfl

/-- **Where a path leads** is where its steps do. -/
theorem walk_eq_ok_iff :
    fs.walk follow links dir steps = .ok loc ↔ Walks fs follow links dir steps loc :=
  ⟨walks_of_walk, walk_of_walks⟩

end FileSystem

namespace Walks

variable {fs : FileSystem} {follow : Bool} {links : Nat} {dir : Place} {steps : List Text}
  {loc : Located}

lemma place_ne_nil (h : Walks fs follow links dir steps loc) (hdir : loc.entry? ≠ some .directory) :
    loc.place ≠ [] := by
  induction h with
  | stop => exact absurd rfl hdir
  | stay _ ih | up _ ih | enter _ _ _ ih | through _ _ _ _ ih => exact ih hdir
  | link | entry | free => simp [Located.place]

/-- What a walk answers is what the file system has there.  A walk without names stays where it
    is, so nothing is known of the directory that it answers. -/
lemma find?_place (h : Walks fs follow links dir steps loc)
    (hdir : loc.entry? ≠ some .directory) : fs.find? loc.place = loc.entry? := by
  induction h with
  | stop => exact absurd rfl hdir
  | stay _ ih | up _ ih | enter _ _ _ ih | through _ _ _ _ ih => exact ih hdir
  | link _ _ hfind _ => exact hfind
  | entry _ _ hfind _ _ => exact hfind
  | free _ _ hfind => exact hfind

/-- **The way to a file stays open** when the file is written: the entries on the way are
    directories and links, so they are other entries. -/
lemma put (h : Walks fs follow links dir steps loc) (hfile : loc.IsFile) (contents : Bytes) :
    Walks (fs.put loc.place (.file contents)) follow links dir steps
      (.found loc.place (.file contents)) := by
  have hdir := hfile.not_directory
  have hplace := h.find?_place hdir
  have hne := h.place_ne_nil hdir
  -- An entry that is no file keeps its place.
  have hkept : ∀ (p : Place) (e : Entry), fs.find? p = some e → (∀ c, e ≠ .file c) →
      (fs.put loc.place (.file contents)).find? p = some e := by
    intro p e hfind hother
    rw [FileSystem.find?_put fs hne, if_neg, hfind]
    rintro rfl
    obtain ⟨c, rfl⟩ := hfile e (hplace ▸ hfind)
    exact hother c rfl
  have hwritten : (fs.put loc.place (.file contents)).find? loc.place = some (.file contents) := by
    rw [FileSystem.find?_put fs hne, if_pos rfl]
  clear hplace hne
  induction h with
  | stop => exact absurd rfl hdir
  | stay _ ih => exact .stay (ih hfile hdir hkept hwritten)
  | up _ ih => exact .up (ih hfile hdir hkept hwritten)
  | enter hname hfind _ ih =>
      exact .enter hname (hkept _ _ hfind (by simp)) (ih hfile hdir hkept hwritten)
  | through hname hfind hlast _ ih =>
      exact .through hname (hkept _ _ hfind (by simp)) hlast (ih hfile hdir hkept hwritten)
  | link =>
      obtain ⟨_, ⟨⟩⟩ := hfile _ rfl
  | entry links hname | free links hname =>
      exact .entry links hname hwritten (by simp) (by simp)

end Walks

/-! ## Opening and writing -/

/-- What a path opens for writing. -/
inductive Opened where
  /-- A file with its old contents; a new one has none. -/
  | file (place : Place) (old : Bytes)
  | device (entry : Entry)
deriving DecidableEq, Repr

/-- Whether what was opened takes the data. -/
def Opened.takes (data : Bytes) : Opened → Bool
  | device .full => data.isEmpty
  | _ => true

namespace FileSystem

variable {fs : FileSystem} {cwd : Place} {path : Text} {loc : Located}

end FileSystem

end LineShell
