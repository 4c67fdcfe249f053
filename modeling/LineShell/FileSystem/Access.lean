import LineShell.FileSystem.Resolve

/-!
# Working with files

The operations of the shell on files, each given a working directory and a path: reading,
writing, listing, entering a directory.  A path is resolved anew by every operation.
-/

namespace LineShell.FileSystem

/-! ## Reading -/

/-- The contents of a file. -/
def readBytes (fs : FileSystem) (cwd : Place) (path : Text) : Except FileError Bytes :=
  match fs.resolve cwd true path with
  | .error e => .error e
  | .ok (.found _ (.file contents)) => .ok contents
  | .ok (.found _ .directory) => .error .isDirectory
  | .ok (.found _ _) => .ok []
  | .ok (.free _ _) => .error .notFound

/-- The contents of a file as text. -/
def readText (fs : FileSystem) (cwd : Place) (path : Text) : Except FileError Text :=
  match fs.readBytes cwd path with
  | .error e => .error e
  | .ok contents =>
    match Utf8.decode? contents with
    | some text => .ok text
    | none => .error .invalidText

/-- The place of a directory. -/
def directoryAt (fs : FileSystem) (cwd : Place) (path : Text) : Except FileError Place :=
  match fs.resolve cwd true path with
  | .error e => .error e
  | .ok (.found place .directory) => .ok place
  | .ok (.found _ _) => .error .notDirectory
  | .ok (.free _ _) => .error .notFound

/-- The entries of a directory, by name. -/
def list (fs : FileSystem) (cwd : Place) (path : Text) :
    Except FileError (List (Text × Entry)) :=
  (fs.directoryAt cwd path).map fs.children

/-- Whether a path leads to a directory. -/
def isDirectory (fs : FileSystem) (cwd : Place) (path : Text) : Bool :=
  (fs.directoryAt cwd path).isOk

/-- Whether a path leads to an entry, a link that leads nowhere included. -/
def hasEntry (fs : FileSystem) (cwd : Place) (path : Text) : Bool :=
  match fs.resolve cwd false path with
  | .ok (.found _ _) => true
  | _ => false

/-! ## Writing -/

/-- Where a path leads that is opened for writing: a slash at the end is refused as soon as the
    rest of the path can be walked. -/
def resolveForWriting (fs : FileSystem) (cwd : Place) (path : Text) :
    Except FileError Located :=
  if path.getLast? = some '/' then
    match fs.resolve cwd false (Text.dropEndWhile (· = '/') path) with
    | .error .notFound => if (pathNames path).isEmpty then .error .isDirectory else .error .notFound
    | .error e => .error e
    | .ok _ => .error .isDirectory
  else fs.resolve cwd true path

/-- Writes a file, over its contents or after them; it is made if there is none. -/
def write (fs : FileSystem) (cwd : Place) (path : Text) (append : Bool) (data : Bytes) :
    Except FileError FileSystem :=
  match fs.resolveForWriting cwd path with
  | .error e => .error e
  | .ok (.found place (.file old)) =>
    .ok (fs.put place (.file (if append then old ++ data else data)))
  | .ok (.found _ .directory) => .error .isDirectory
  | .ok (.found _ .full) => if data.isEmpty then .ok fs else .error .noSpace
  | .ok (.found _ _) => .ok fs
  | .ok (.free dir name) =>
    if fs.find? dir = some .directory then .ok (fs.put (dir ++ [name]) (.file data))
    else .error .notFound

/-- Makes one directory, if its name is free. -/
def makeDirectory (fs : FileSystem) (cwd : Place) (path : Text) : FileSystem :=
  match fs.resolve cwd false path with
  | .ok (.free dir name) =>
    if fs.find? dir = some .directory then fs.put (dir ++ [name]) .directory else fs
  | _ => fs

/-- Makes the directories of a path one after another, from `made` on; stops where one can
    neither be found nor made. -/
def makePath (fs : FileSystem) (cwd : Place) (made : Text) : List Text → FileSystem
  | [] => fs
  | name :: rest =>
    let path := joinPath made name
    let fs' := if fs.isDirectory cwd path then fs else fs.makeDirectory cwd path
    if fs'.isDirectory cwd path then fs'.makePath cwd path rest else fs'

/-- Makes the directories above a path; a name `.` is not one of its levels. -/
def makeParents (fs : FileSystem) (cwd : Place) (path : Text) : FileSystem :=
  fs.makePath cwd (if path.head? = some '/' then ['/'] else [])
    ((pathNames path).filter (· ≠ ['.'])).dropLast

end LineShell.FileSystem
