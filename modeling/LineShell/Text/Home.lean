import LineShell.Text.Basic

/-!
# Home directories

A tilde at the start of a path, alone or before a slash, stands for the home directory.
-/

namespace LineShell.Text

/-- The path with a leading tilde replaced by the home directory, if there is one. -/
def expandHome (home : Option Text) : Text → Text
  | '~' :: rest =>
    match home with
    | some dir => if rest.isEmpty || rest.head? = some '/' then dir ++ rest else '~' :: rest
    | none => '~' :: rest
  | path => path

end LineShell.Text
