import LineShell.Line.Redirection

/-!
# Command trees

A `Command` is what the shell runs: sequences and pipelines over calls.  A call carries its text
with quotes unwrapped, its redirections and at most one substitution, which is itself a command
(`Payload.parsed`) or text that has not been read yet (`Payload.raw`).
-/

namespace LineShell

/-- What runs in place of a backquoted span. -/
inductive Payload (τ : Type) where
  /-- Text that is read when the call runs. -/
  | raw (text : Text)
  /-- A command. -/
  | parsed (command : τ)
deriving DecidableEq, Repr

/-- A backquoted span and the text of its call on either side.  `before` is trimmed at its start
    only and `after` at its end only, so the blanks around the span are kept. -/
structure Substitution (τ : Type) where
  payload : Payload τ
  before : Text
  after : Text
deriving DecidableEq, Repr

/-- One call of an application. -/
structure Call (τ : Type) where
  /-- The command line, quotes unwrapped and trimmed. -/
  text : Text
  redirections : List Redirection := []
  substitution : Option (Substitution τ) := none
  /-- The backquoted span stands under single quotes, so it stays text. -/
  disqualified : Bool := false
deriving DecidableEq, Repr

/-- A command tree. -/
inductive Command where
  | sequence (children : List Command)
  | pipeline (stages : List Command)
  | call (call : Call Command)
deriving Repr, Inhabited

namespace Command

/-- A call of nothing: no text, no redirection, no substitution. -/
def isEmptyCall : Command → Bool
  | call c => c.text.isEmpty && c.redirections.isEmpty && c.substitution.isNone
  | _ => false

end Command

end LineShell
