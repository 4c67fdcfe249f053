import LineShell.Text.Utf8

/-!
# File systems

A file system is a finite list of entries, each under its place: the names from the root down to
it, without `.` and `..`.  The root itself is a directory and has no entry.

**Places.**  `find?` looks an entry up, `put` places one (over what was there), `erase` removes a
place and all below it.

**Directories.**  `children` are the entries directly in a directory, `depth` bounds how deep any
entry lies.

**Comparison.**  `changes` lists what one file system has otherwise than another.
-/

namespace LineShell

/-- A place in a file system: the names from the root down. -/
abbrev Place := List Text

/-- What stands at a place. -/
inductive Entry where
  | directory
  | file (contents : Bytes)
  /-- A symbolic link with its target as written. -/
  | link (target : Text)
  /-- A device that reads as empty and takes everything. -/
  | null
  /-- A device that is always full. -/
  | full
deriving DecidableEq, Repr

/-- Whether an entry is a directory (a link to one is not). -/
def Entry.isDirectory : Entry → Bool
  | .directory => true
  | _ => false

/-- A finite file system. -/
structure FileSystem where
  entries : List (Place × Entry) := []
deriving DecidableEq, Repr

namespace FileSystem

/-- The entry at a place. -/
def find? (fs : FileSystem) (p : Place) : Option Entry :=
  if p.isEmpty then some .directory else fs.entries.lookup p

/-- Replaces the entry at a place, or adds it after the others. -/
def putEntry (p : Place) (e : Entry) : List (Place × Entry) → List (Place × Entry)
  | [] => [(p, e)]
  | (q, d) :: rest => if q = p then (p, e) :: rest else (q, d) :: putEntry p e rest

/-- Places an entry, over what was there. -/
def put (fs : FileSystem) (p : Place) (e : Entry) : FileSystem :=
  ⟨putEntry p e fs.entries⟩

/-- Removes a place and all places below it. -/
def erase (fs : FileSystem) (p : Place) : FileSystem :=
  ⟨fs.entries.filter fun (q, _) => !p.isPrefixOf q⟩

/-- The entries directly in a directory, by name. -/
def children (fs : FileSystem) (p : Place) : List (Text × Entry) :=
  fs.entries.filterMap fun (q, e) =>
    match q.getLast? with
    | some name => if q.dropLast = p then some (name, e) else none
    | none => none

/-- No place has more names than this. -/
def depth (fs : FileSystem) : Nat :=
  fs.entries.foldl (fun d (q, _) => max d q.length) 0

/-- Makes the directories down to a place, as far as no other entry stands in the way. -/
def makeDirectories (fs : FileSystem) (made : Place) : Place → FileSystem
  | [] => fs
  | name :: rest =>
    match fs.find? (made ++ [name]) with
    | none => (fs.put (made ++ [name]) .directory).makeDirectories (made ++ [name]) rest
    | some .directory => fs.makeDirectories (made ++ [name]) rest
    | some _ => fs

/-- Places an entry with the directories above it. -/
def place (fs : FileSystem) (p : Place) (e : Entry) : FileSystem :=
  (fs.makeDirectories [] p.dropLast).put p e

/-- The places below `root` at which `new` differs from `old`, relative to `root`: with the new
    entry, or none where it is gone. -/
def changes (root : Place) (old new : FileSystem) : List (Place × Option Entry) :=
  let below (p : Place) : Bool := root.isPrefixOf p && p.length > root.length
  let gone := old.entries.filterMap fun (p, _) =>
    if below p && (new.find? p).isNone then some (p.drop root.length, none) else none
  let changed := new.entries.filterMap fun (p, e) =>
    if below p && old.find? p ≠ some e then some (p.drop root.length, some e) else none
  gone ++ changed

end FileSystem

end LineShell
