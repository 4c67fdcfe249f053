import LineShell.FileSystem.Access
import LineShell.Glob.Pattern

/-!
# Paths that match a pattern

A pattern for paths is cut at its slashes, and each component is a pattern for one name.
`Glob.expand` walks down the directories that match so far.

* A component of plain characters is looked up, not listed, so it may also be `.` or `..`.
* Any other component is matched against the entries of the directory; `.` and `..` are among
  them only if the component starts with a dot.
* `**` matches every directory below, at any depth, and the directory itself.
* A slash at the end asks for directories.

A path below the working directory is written without `./` in front.
-/

namespace LineShell.Glob

/-- The components of a pattern and how its matches start. -/
structure PathPattern where
  /-- `.` or `/` -/
  root : Text
  components : List Pattern
  /-- Only directories match. -/
  directories : Bool
deriving Repr

/-- The components of a pattern: what stands between slashes, a last one that is empty left
    out. -/
def componentTexts (s : Text) : List Text :=
  let pieces := Text.splitOn '/' s
  if pieces.getLast? = some [] then pieces.dropLast else pieces

/-- Reads a pattern for paths: first as a whole, then each component. -/
def PathPattern.parse (s : Text) : Except Error PathPattern := do
  let _ ← Pattern.parse s
  let absolute := s.head? = some '/'
  let components ← (componentTexts (if absolute then s.drop 1 else s)).mapM Pattern.parse
  let whole := s.length ≤ if absolute then 1 else 0
  return {
    root := if absolute then ['/'] else ['.']
    components := if whole then components ++ [⟨[]⟩] else components
    directories := s.getLast? = some '/' }

/-- A path below a directory; below the working directory it is the name alone. -/
def below (path name : Text) : Text := if path = ['.'] then name else joinPath path name

/-- What matches beyond a path that a component has accepted: the path itself after the last
    component, else what `descend` finds for the components left. -/
def proceed (isDir : Text → Bool) (directories : Bool)
    (descend : List Pattern → Text → List Text) (left : List Pattern) (path : Text) :
    List Text :=
  if left.isEmpty then (if directories && !isDir path then [] else [path])
  else descend left path

/-- What matches at an entry of a directory, for the components `first :: left`. -/
def visit (directories : Bool) (descend : List Pattern → Text → List Text)
    (first : Pattern) (left : List Pattern) (path name : Text) (dir : Bool) : List Text :=
  let plain : List Pattern → List Text
    | [] => []
    | p :: rest =>
      if p.matches name then
        if rest.isEmpty then (if directories && !dir then [] else [path])
        else descend rest path
      else []
  if first.isDeep then
    let rest := left.dropWhile Pattern.isDeep
    (if dir then
      descend (first :: rest) path ++ (if rest.isEmpty then [path] else [])
    else []) ++ plain rest
  else plain (first :: left)

/-- The paths below a directory that match some components, found within `depth` steps. -/
def descend (fs : FileSystem) (cwd : Place) (directories : Bool) :
    (depth : Nat) → List Pattern → Text → List Text
  | 0, _, _ => []
  | _ + 1, [], _ => []
  | depth + 1, first :: left, path =>
    let onward := proceed (fs.isDirectory cwd) directories (descend fs cwd directories depth) left
    if !fs.isDirectory cwd path then []
    else
      match first.literal? with
      | some name =>
        let next := below path name
        if name = ['.'] ∨ name = ['.', '.'] ∨ fs.hasEntry cwd next then onward next else []
      | none =>
        let entries := ((fs.list cwd path).toOption.getD []).flatMap fun (name, entry) =>
          let next := below path name
          let dir :=
            match entry with
            | .link _ => fs.isDirectory cwd next
            | entry => entry.isDirectory
          visit directories (descend fs cwd directories depth) first left next name dir
        let dots :=
          if first.tokens.head? = some (.char '.') then
            [['.'], ['.', '.']].filter first.matches
          else []
        entries ++ dots.flatMap fun name => onward (joinPath path name)

/-- The paths that match a pattern, in order.  No path of `pathLimit` bytes is found, so this
    many steps down are enough. -/
def expand (fs : FileSystem) (cwd : Place) (s : Text) : Except Error (List Text) := do
  let pattern ← PathPattern.parse s
  return Text.sort (descend fs cwd pattern.directories (pathLimit + pattern.components.length)
    pattern.components pattern.root)

end LineShell.Glob
