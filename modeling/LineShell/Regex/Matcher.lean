import LineShell.Regex.Program

/-!
# Matching

A program takes a set of positions in a text to the positions where its matches from there end.
A set is an increasing list.  Repetition goes on until nothing new comes, which is after as many
rounds as there are positions at the latest.

`Program.isMatch` asks whether there is a match anywhere.
-/

namespace LineShell.Regex

/-- The positions of both lists, in order and once each. -/
def merge : List Nat → List Nat → List Nat
  | [], js => js
  | is, [] => is
  | i :: is, j :: js =>
    if i < j then i :: merge is (j :: js)
    else if j < i then j :: merge (i :: is) js
    else i :: merge is js
termination_by is js => is.length + js.length

/-- Takes a set of positions through `step` so many times, or until it stays the same. -/
def power (step : List Nat → List Nat) : Nat → List Nat → List Nat
  | 0, ps => ps
  | n + 1, ps =>
    let next := step ps
    if next = ps then ps else power step n next

/-- Adds what `step` reaches so many times, or until nothing new comes. -/
def reach (step : List Nat → List Nat) : Nat → List Nat → List Nat
  | 0, ps => ps
  | n + 1, ps =>
    let next := merge ps (step ps)
    if next = ps then ps else reach step n next

/-- Whether an assertion holds at a position. -/
def Look.holds (s : Array Char) (i : Nat) : Look → Bool
  | .textStart => i = 0
  | .textEnd => i = s.size
  | .lineStart => i = 0 || s[i - 1]? = some '\n'
  | .lineEnd => i = s.size || s[i]? = some '\n'
  | .crlfStart =>
    i = 0 || s[i - 1]? = some '\n' || (s[i - 1]? = some '\r' && s[i]? ≠ some '\n')
  | .crlfEnd =>
    i = s.size || s[i]? = some '\r' ||
      (s[i]? = some '\n' && (i = 0 || s[i - 1]? ≠ some '\r'))
  | .word test chars =>
    let before := i > 0 && s[i - 1]?.any chars.contains
    let after := s[i]?.any chars.contains
    match test with
    | .boundary => before != after
    | .notBoundary => before == after
    | .start => !before && after
    | .stop => before && !after
    | .startHalf => !before
    | .stopHalf => !after

/-- The positions where matches from some positions end. -/
def Program.ends (s : Array Char) : Program → List Nat → List Nat
  | .empty, ps => ps
  | .set chars, ps =>
    ps.filterMap fun i => if s[i]?.any chars.contains then some (i + 1) else none
  | .look assertion, ps => ps.filter fun i => assertion.holds s i
  | .concat p q, ps => q.ends s (p.ends s ps)
  | .alternate p q, ps => merge (p.ends s ps) (q.ends s ps)
  | .times min max p, ps =>
    let start := power (p.ends s) min ps
    match max with
    | none => reach (p.ends s) (s.size + 1) start
    | some max => reach (p.ends s) (Nat.min (max - min) (s.size + 1)) start

/-- Whether a program matches anywhere in a text. -/
def Program.isMatch (p : Program) (text : Text) : Bool :=
  let s := text.toArray
  !(p.ends s (List.range (s.size + 1))).isEmpty

end LineShell.Regex
