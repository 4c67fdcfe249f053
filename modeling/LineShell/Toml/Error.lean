import LineShell.Text.Utf8
import LineShell.Toml.Basic

/-!
# TOML errors

An error has a message and, as a rule, a stretch of the source, which is shown under the line that
it starts in.

**Messages.**  A `Problem` of the grammar says what was being read, what would have been
accepted, and what is wrong with what was read; any of these may be missing.

**Places.**  Lines and columns count from one.  A column counts characters, but bytes if the
character there is beyond ASCII.  The end of the source counts as the place after its last
character, on the same line even if that is a newline.
-/

namespace LineShell.Toml

/-! ## Messages -/

/-- What is wrong with something that was read. -/
inductive Cause where
  /-- A key is there already; the path of its table is known or not. -/
  | duplicateKey (key : Text) (table : Option (List Text))
  /-- A path goes through something that is not a table. -/
  | notTable (path : List Text) (kind : Text)
  | outOfRange
  | tooDeep
  | numberTooLarge
  | numberTooSmall
deriving DecidableEq, Repr

/-- The wording of a cause. -/
def Cause.message : Cause → Text
  | duplicateKey key none => "duplicate key `".toList ++ key ++ ['`']
  | duplicateKey key (some []) => "duplicate key `".toList ++ key ++ "` in document root".toList
  | duplicateKey key (some path) =>
    "duplicate key `".toList ++ key ++ "` in table `".toList ++ Text.join ['.'] path ++ ['`']
  | notTable path kind =>
    "dotted key `".toList ++ Text.join ['.'] path ++
      "` attempted to extend non-table type (".toList ++ kind ++ [')']
  | outOfRange => "value is out of range".toList
  | tooDeep => "recursion limit exceeded".toList
  | numberTooLarge => "number too large to fit in target type".toList
  | numberTooSmall => "number too small to fit in target type".toList

/-- Why the grammar refuses a source. -/
structure Problem where
  /-- What was being read. -/
  label : Option Text := none
  /-- What would have been accepted. -/
  expected : List Text := []
  cause : Option Cause := none
deriving DecidableEq, Repr

/-- The wording of a problem: a line for each of its parts. -/
def Problem.message (p : Problem) : Text :=
  let label := p.label.toList.map ("invalid ".toList ++ ·)
  let expected :=
    if p.expected.isEmpty then [] else ["expected ".toList ++ Text.join ", ".toList p.expected]
  Text.join ['\n'] (label ++ expected ++ p.cause.toList.map Cause.message)

/-! ## Places -/

/-- An error with the stretch of the source that it is about. -/
structure Error where
  message : Text
  span : Option Span
deriving DecidableEq, Repr

/-- The line and the column of a place, counted from zero. -/
def locate (source : Text) (offset : Nat) : Nat × Nat :=
  let before := if offset < source.length then source.take offset else source.dropLast
  let line := before.count '\n'
  let sinceLine := (before.reverse.takeWhile (· ≠ '\n')).reverse
  let column :=
    match source.drop offset with
    | [] => sinceLine.length + if source.isEmpty then 0 else 1
    | c :: _ => if c.toNat < 0x80 then sinceLine.length else Utf8.size sinceLine
  (line, column)

/-- An error with the line it is about and a mark under the place. -/
def Error.report (source : Text) (e : Error) : Text :=
  let head :=
    match e.span with
    | none => []
    | some span =>
      let start := source.length - span.startLeft
      let (line, column) := locate source start
      let number := Text.ofNat (line + 1)
      let content := ((Text.splitOn '\n' source).drop line).headD []
      let size := Utf8.size ((source.drop start).take (span.startLeft - span.stopLeft))
      let marks := max 1 (min size (Utf8.size content - column))
      let gutter := List.replicate (number.length + 1) ' ' ++ ['|']
      "TOML parse error at line ".toList ++ number ++ ", column ".toList ++
        Text.ofNat (column + 1) ++ ['\n'] ++ gutter ++ ['\n'] ++
        number ++ " | ".toList ++ content ++ ['\n'] ++
        gutter ++ List.replicate (column + 1) ' ' ++ List.replicate marks '^' ++ ['\n']
  head ++ e.message ++ ['\n']

end LineShell.Toml
