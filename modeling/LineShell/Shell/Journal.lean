import LineShell.Command.Assembly
import LineShell.Shell.Error

/-!
# The journal

What the shell notes while it runs, in order.  The log shows it in so far as its level asks for
it; nothing that the shell does depends on it.
-/

namespace LineShell

/-- A note of the shell. -/
inductive Note where
  /-- A line is about to be read. -/
  | running (line : Text)
  /-- A call has been assembled. -/
  | assembled (summary : CallSummary)
  /-- A command line is dispatched, to this application with these arguments if it names one. -/
  | dispatched (cmdline : Text) (app : Option (Text × List Text))
  /-- A tolerant application prints a failure. -/
  | suppressed (cause : AppError)
  /-- A line has failed. -/
  | failed (cause : ShellError)
  /-- A line is asked for, of an input that is not a terminal. -/
  | awaiting
  /-- A line of the history has an escape that is none. -/
  | badHistory (line : Text)
deriving DecidableEq, Repr

end LineShell
