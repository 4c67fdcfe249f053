import LineShell.Application.Builtin
import LineShell.FileSystem.Error
import LineShell.Glob.Pattern
import LineShell.Regex.Error

/-!
# Failures of applications

`AppError` lists the ways in which an application can fail.
-/

namespace LineShell

/-- Why an application failed. -/
inductive AppError where
  /-- The arguments are not those of the application. -/
  | invalidArguments (app : Builtin)
  /-- A file operation failed. -/
  | file (path : Text) (cause : FileError)
  /-- A wildcard pattern is wrong. -/
  | glob (cause : Glob.Error)
  /-- A regular expression is wrong. -/
  | regex (cause : Regex.Error)
deriving DecidableEq, Repr

/-- The wording of a failure. -/
def AppError.message : AppError → Text
  | invalidArguments app => "invalid ".toList ++ app.name ++ " arguments".toList
  | file path cause => path ++ ": ".toList ++ cause.message
  | glob cause => "invalid pattern: ".toList ++ cause.message
  | regex cause => "invalid pattern: ".toList ++ cause.message

end LineShell
