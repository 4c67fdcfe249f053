import LineShell.Line.Quote
import LineShell.Line.Redirection

/-!
# Syntax errors

`SyntaxError` lists every way in which a line can fail to be a command, `SyntaxError.message` the
wording.  Columns count characters from one.
-/

namespace LineShell

/-- Why a line is not a command. -/
inductive SyntaxError where
  /-- Nothing but blanks, or a sequence all of whose members are empty. -/
  | emptyLine
  /-- A pipeline with a stage of blanks only. -/
  | emptyStage
  /-- A quote opened at this column is never closed. -/
  | unterminated (kind : Quote) (column : Nat)
  /-- No file name follows an operator. -/
  | missingTarget (op : Operator) (column : Nat)
  /-- A backquoted span inside a backquoted span. -/
  | nestedSubstitution
  /-- More than one backquoted span in a call. -/
  | manySubstitutions
  /-- A stage other than the last sends its output to a file. -/
  | outputInPipeline
deriving DecidableEq, Repr

/-- The wording of a syntax error. -/
def SyntaxError.message : SyntaxError → Text
  | emptyLine => "empty command line".toList
  | emptyStage => "empty pipeline stage".toList
  | unterminated kind column =>
    "unterminated ".toList ++ kind.name ++ " quote opened at column ".toList ++
      Text.ofNat column
  | missingTarget op column =>
    "expected a filename after '".toList ++ op.symbol ++ "' at column ".toList ++
      Text.ofNat column
  | nestedSubstitution => "nested command substitution".toList
  | manySubstitutions => "multiple command substitutions in one call".toList
  | outputInPipeline => "output redirection in the middle of a pipeline".toList

end LineShell
