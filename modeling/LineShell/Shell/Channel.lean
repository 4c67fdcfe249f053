import LineShell.Text.Basic

/-!
# Output channels

A channel holds the fragments that have been written to it, in order.  Applications write lines,
pipelines hand a channel's fragments on, and redirections write them out joined.
-/

namespace LineShell

/-- The fragments written so far. -/
structure Channel where
  fragments : List Text := []
deriving DecidableEq, Repr

namespace Channel

/-- Writes a fragment as it is. -/
def push (c : Channel) (s : Text) : Channel := ⟨c.fragments ++ [s]⟩

/-- Writes a line: a newline is added if it lacks one. -/
def pushLine (c : Channel) (s : Text) : Channel := c.push (Text.terminated s)

/-- The fragments of both channels, in order. -/
def append (c d : Channel) : Channel := ⟨c.fragments ++ d.fragments⟩

/-- Moves the fragments of `d` to the end of `c`; `d` is left empty. -/
def absorb (c d : Channel) : Channel × Channel := (c.append d, {})

/-- Takes the fragments out; the channel is left empty. -/
def drain (c : Channel) : List Text × Channel := (c.fragments, {})

/-- Whether there is no fragment. -/
def isEmpty (c : Channel) : Bool := c.fragments.isEmpty

/-- All fragments as one text. -/
def joined (c : Channel) : Text := c.fragments.flatten

end Channel

end LineShell
