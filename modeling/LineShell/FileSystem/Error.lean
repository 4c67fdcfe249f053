import LineShell.Text.Basic

/-!
# File errors

The ways in which an operation on a file can fail, with the wording and number of the system.
-/

namespace LineShell

/-- Why an operation on a file failed. -/
inductive FileError where
  | notFound
  | notDirectory
  | isDirectory
  | noSpace
  | nameTooLong
  | tooManyLinks
  /-- The contents are not well-formed UTF-8. -/
  | invalidText
  /-- A path holds the character NUL. -/
  | nulInPath
deriving DecidableEq, Repr

/-- The wording of a file error. -/
def FileError.message : FileError → Text
  | notFound => "No such file or directory (os error 2)".toList
  | notDirectory => "Not a directory (os error 20)".toList
  | isDirectory => "Is a directory (os error 21)".toList
  | noSpace => "No space left on device (os error 28)".toList
  | nameTooLong => "File name too long (os error 36)".toList
  | tooManyLinks => "Too many levels of symbolic links (os error 40)".toList
  | invalidText => "stream did not contain valid UTF-8".toList
  | nulInPath => "file name contained an unexpected NUL byte".toList

end LineShell
