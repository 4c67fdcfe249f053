import LineShell.Application.Error
import LineShell.Line.Error

/-!
# Failures of a line

`ShellError` lists the ways in which running a line can fail, `ShellError.message` the wording.
-/

namespace LineShell

/-- Why a line failed. -/
inductive ShellError where
  /-- The line is not a command. -/
  | malformed (cause : SyntaxError)
  /-- A call has two redirections of one direction. -/
  | conflict (direction : Direction)
  /-- An application failed; it goes by the name it was called by. -/
  | application (name : Text) (cause : AppError)
  /-- The target of an output redirection cannot be written. -/
  | redirect (path : Text) (cause : FileError)
  /-- A command line has no word. -/
  | noApplication
  /-- No application has this name. -/
  | unknownApplication (name : Text)
deriving DecidableEq, Repr

namespace ShellError

/-- The wording of a failure. -/
def message : ShellError → Text
  | malformed cause => "syntax error: ".toList ++ cause.message
  | conflict .input => "execution error: multiple input redirections".toList
  | conflict .output => "execution error: multiple output redirections".toList
  | application name cause =>
    "execution error: ".toList ++ name ++ ": ".toList ++ cause.message
  | redirect path cause =>
    "execution error: cannot write ".toList ++ path ++ ": ".toList ++ cause.message
  | noApplication => "dispatch error: no application provided".toList
  | unknownApplication name => "dispatch error: unknown application: ".toList ++ name

/-- Whether the line failed while it ran. -/
def isExecution : ShellError → Bool
  | conflict _ => true
  | application _ _ => true
  | redirect _ _ => true
  | _ => false

end ShellError

end LineShell
