import LineShell.Text.Basic

/-!
# The help text
-/

namespace LineShell

/-- The lines of the help text. -/
def helpLines : List Text := [
  "minish: a small line-oriented shell",
  "",
  "Commands: call, sequence (';'), pipeline ('|')",
  "Quoting: single, double, and backquotes for command substitution",
  "Redirection: '<' file, '<<' heredoc, '>' truncate, '>>' append",
  "Globbing: '*' expands to matching file names",
  "",
  "Applications:",
  "  cd DIR                     change the working directory",
  "  pwd                        print the working directory",
  "  ls [DIR]                   list DIR, or the working directory",
  "  cat [FILE]...              concatenate FILEs, or the current input",
  "  echo [ARG]...              print the rest of the line",
  "  head [-n NUM] [FILE]       first NUM lines (default 10)",
  "  tail [-n NUM] [FILE]       last NUM lines (default 10)",
  "  grep PATTERN [FILE]...     lines matching the regex PATTERN",
  "  find [PATH] -name PATTERN  files below PATH whose name matches",
  "  sort [-r] [FILE]           sort lines, -r reverses",
  "  uniq [-i] [FILE]           drop adjacent duplicates, -i ignores case",
  "  cut -b LIST [FILE]         select byte ranges N, N-M, N-, -M",
  "",
  "Prefix a name with '_' (e.g. _cat) to print failures instead of aborting."].map String.toList

end LineShell
