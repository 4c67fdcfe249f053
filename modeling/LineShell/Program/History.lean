import LineShell.Application.Input

/-!
# The history of lines

The history keeps the last lines that were typed, one of several equal lines in a row.

**The file.**  A history file starts with a version line.  A newline in an entry is written as
`\n` and a backslash doubled.  A file without the version line is read as it is.

**What is new.**  A history is written back only if it has entries that its file lacks.  A file
that turns out not to be text counts as unread, so what was read of it is new as well.
-/

namespace LineShell

/-- The lines typed so far. -/
structure History where
  entries : List Text := []
  /-- How many of them have not been written. -/
  unsaved : Nat := 0
deriving DecidableEq, Repr

namespace History

/-- How many lines are kept. -/
def limit : Nat := 100

/-- Adds a line, unless it is empty or equal to the one before it. -/
def add (h : History) (line : Text) : History :=
  if line.isEmpty ∨ h.entries.getLast? = some line then h
  else
    let kept := if h.entries.length < limit then h.entries else h.entries.drop 1
    { entries := kept ++ [line], unsaved := min (h.unsaved + 1) (kept.length + 1) }

/-! ## The file -/

/-- The first line of a history file. -/
def version : Text := "#V2".toList

/-- An entry as it is written. -/
def escape (entry : Text) : Text :=
  entry.flatMap fun c =>
    if c = '\\' then ['\\', '\\'] else if c = '\n' then ['\\', 'n'] else [c]

/-- An entry as it is read; none if a backslash stands before anything else. -/
def unescape? : Text → Option Text
  | [] => some []
  | '\\' :: 'n' :: rest => (unescape? rest).map ('\n' :: ·)
  | '\\' :: '\\' :: rest => (unescape? rest).map ('\\' :: ·)
  | c :: rest => if c = '\\' then none else (unescape? rest).map (c :: ·)

/-- The text of a history file. -/
def file (h : History) : Text :=
  (version :: h.entries.map escape).flatMap fun line => line ++ ['\n']

/-- A line of a file without its line end. -/
def lineText? (line : Bytes) : Option Text :=
  (Utf8.decode? line).map fun text =>
    if Text.endsLine text then
      let bare := text.dropLast
      if bare.getLast? = some '\r' then bare.dropLast else bare
    else text

/-- Adds the lines of a file; also the lines whose escapes are wrong, which stand as they are, and
    whether all lines are text. -/
def addLines (escaped : Bool) : History → List Bytes → History × List Text × Bool
  | h, [] => (h, [], true)
  | h, line :: rest =>
    match lineText? line with
    | none => (h, [], false)
    | some text =>
      match if escaped then unescape? text else some text with
      | some entry => addLines escaped (h.add entry) rest
      | none =>
        let (h, bad, readable) := addLines escaped (h.add text) rest
        (h, text :: bad, readable)

/-- Reads a history file; also the lines whose escapes are wrong. -/
def ofFile (contents : Bytes) : History × List Text :=
  let lines := byteLines contents
  let versioned := (lines.head?.bind lineText?) = some version
  let (h, bad, readable) := addLines versioned {} (if versioned then lines.drop 1 else lines)
  (if readable then { h with unsaved := 0 } else h, bad)

end History

end LineShell
