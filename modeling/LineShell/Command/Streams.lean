import LineShell.Line.Redirection

/-!
# The redirections of a call

`splitRedirections` sorts the redirections of a call by direction and refuses two of one kind.
-/

namespace LineShell

/-- Where a call takes its input from: a file, or the lines of standard input up to the one that
    reads `file`. -/
structure InputTarget where
  file : Text
  heredoc : Bool := false
deriving DecidableEq, Repr

/-- The file that takes a call's output. -/
structure OutputTarget where
  file : Text
  append : Bool := false
deriving DecidableEq, Repr

/-- The redirections of a call, one of each direction at most. -/
structure Streams where
  input : Option InputTarget := none
  output : Option OutputTarget := none
deriving DecidableEq, Repr

/-- Adds a redirection; a second one of the same direction is a conflict in that direction. -/
def Streams.add (s : Streams) (r : Redirection) : Except Direction Streams :=
  match r.direction with
  | .input =>
    if s.input.isSome then .error .input
    else .ok { s with input := some ⟨r.filename, r.mode = .heredoc⟩ }
  | .output =>
    if s.output.isSome then .error .output
    else .ok { s with output := some ⟨r.filename, r.mode = .append⟩ }

/-- The redirections by direction, or the direction of the first conflict. -/
def splitRedirections (rs : List Redirection) : Except Direction Streams :=
  rs.foldlM Streams.add {}

end LineShell
