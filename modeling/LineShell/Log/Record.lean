import LineShell.Log.Level
import LineShell.Shell.Journal
import LineShell.Text.Quoted

/-!
# Records of the log

A note of the shell becomes a record: a level, a message and, for the records that help with
debugging, the part of the program that it comes from.
-/

namespace LineShell

/-- A record. -/
structure Record where
  level : Level
  /-- The part of the program that it comes from, where the log shows it. -/
  source : Option Text := none
  message : Text
deriving DecidableEq, Repr

/-- A truth value in words. -/
def boolText (b : Bool) : Text := (if b then "true" else "false").toList

/-- What the log says of an assembled call. -/
def CallSummary.message (s : CallSummary) : Text :=
  "rewrote call ".toList ++ Text.quoted s.text ++ " (redirections: ".toList ++
    Text.ofNat s.redirections ++ ", substitution: ".toList ++ boolText s.substitution ++
    ", disqualified: ".toList ++ boolText s.disqualified ++ ")".toList

/-- The record of a note, if there is one. -/
def Note.record? : Note → Option Record
  | running line => some { level := .info, message := "run: ".toList ++ line }
  | assembled s => some ⟨.debug, some "minish::parse::rewrite".toList, s.message⟩
  | dispatched _ (some (name, args)) =>
    some ⟨.debug, some "minish::exec::dispatch".toList,
      "dispatch ".toList ++ name ++ ' ' :: Text.quotedList args⟩
  | dispatched _ none => none
  | suppressed cause =>
    some {
      level := .warn
      message := "suppressed application error: ".toList ++ cause.message }
  | failed cause => some { level := .warn, message := cause.message }
  | awaiting => some ⟨.debug, some "rustyline".toList, "stdin is not a tty".toList⟩
  | badHistory line => some { level := .warn, message := "bad escaped line: ".toList ++ line }

/-- The line of a record, written at a time of day. -/
def Record.line (clock : Text) (r : Record) : Text :=
  let source :=
    match r.source with
    | some name => "(1) ".toList ++ name ++ ": ".toList
    | none => []
  clock ++ " [".toList ++ r.level.name ++ "] ".toList ++ source ++ r.message ++ ['\n']

end LineShell
