import LineShell.FileSystem.Basic
import LineShell.FileSystem.Error

/-!
# Paths

A path is a text; where it leads depends on the file system and on the working directory.

**Steps.**  `pathSteps` are the names of a path in order; a slash at the end asks for a directory
and counts as the step `.`.

**Walking.**  `FileSystem.walk` takes the steps one by one and follows symbolic links, at most
`linkLimit` of them.  It ends at an entry (`Located.found`) or at a free name in a directory that
exists (`Located.free`).

**Joining.**  `joinPath` puts a name after a path.
-/

namespace LineShell

/-! ## Path texts -/

/-- A path below another one: a name that starts at the root stands alone, and no slash is added
    after one. -/
def joinPath (base name : Text) : Text :=
  if name.head? = some '/' then name
  else if base.isEmpty || base.getLast? = some '/' then base ++ name
  else base ++ '/' :: name

/-- The names of a path, empty ones left out. -/
def pathNames (path : Text) : List Text :=
  (Text.splitOn '/' path).filter fun name => !name.isEmpty

/-- The steps of a path: its names, and `.` for a slash at the end. -/
def pathSteps (path : Text) : List Text :=
  pathNames path ++ if path.getLast? = some '/' then [['.']] else []

/-- The text of a place. -/
def Place.text : Place → Text
  | [] => ['/']
  | p => p.flatMap fun name => '/' :: name

/-! ## Walking -/

/-- How many symbolic links a path may go through. -/
def linkLimit : Nat := 40

/-- The most bytes a name may take. -/
def nameLimit : Nat := 255

/-- A path of this many bytes or more is refused. -/
def pathLimit : Nat := 4096

/-- Where a path leads. -/
inductive Located where
  | found (place : Place) (entry : Entry)
  /-- Nothing has this name in an existing directory. -/
  | free (directory : Place) (name : Text)
deriving DecidableEq, Repr

namespace FileSystem

/-- Takes the steps of a path from a directory.  A link at the last step is followed if `follow`
    says so, and at every other step. -/
def walk (fs : FileSystem) (follow : Bool) (links : Nat) (dir : Place) (steps : List Text) :
    Except FileError Located :=
  match steps with
  | [] => .ok (.found dir .directory)
  | name :: rest =>
    if name = ['.'] then fs.walk follow links dir rest
    else if name = ['.', '.'] then fs.walk follow links dir.dropLast rest
    else if Utf8.size name > nameLimit then .error .nameTooLong
    else
      match fs.find? (dir ++ [name]) with
      | none => if rest.isEmpty then .ok (.free dir name) else .error .notFound
      | some .directory => fs.walk follow links (dir ++ [name]) rest
      | some (.link target) =>
        if rest.isEmpty && !follow then .ok (.found (dir ++ [name]) (.link target))
        else
          match links with
          | 0 => .error .tooManyLinks
          | left + 1 =>
            fs.walk follow left (if target.head? = some '/' then [] else dir)
              (pathSteps target ++ rest)
      | some entry =>
        if rest.isEmpty then .ok (.found (dir ++ [name]) entry) else .error .notDirectory
termination_by (links, steps.length)

/-- Where a path leads from a working directory. -/
def resolve (fs : FileSystem) (cwd : Place) (follow : Bool) (path : Text) :
    Except FileError Located :=
  if path.contains (Char.ofNat 0) then .error .nulInPath
  else if path.isEmpty then .error .notFound
  else if Utf8.size path ≥ pathLimit then .error .nameTooLong
  else
    fs.walk follow linkLimit (if path.head? = some '/' then [] else cwd) (pathSteps path)

end FileSystem

end LineShell
