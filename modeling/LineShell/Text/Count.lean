import LineShell.Text.Basic

/-!
# Counts

A count is what the options of `head`, `tail` and `cut` take: decimal digits with an optional
plus sign, below the limit of a 64-bit machine word.
-/

namespace LineShell.Text

/-- Counts stay below this limit. -/
def countLimit : Nat := Nat.pow 2 64

/-- The value of a run of decimal digits read after a number already worth `acc`; none at the
    first other character or once the limit is passed. -/
def countFrom (acc : Nat) : Text → Option Nat
  | [] => some acc
  | c :: cs =>
    if '0' ≤ c ∧ c ≤ '9' then
      let n := acc * 10 + (c.toNat - '0'.toNat)
      if n < countLimit then countFrom n cs else none
    else none

/-- Reads a count: digits after an optional plus sign, at least one. -/
def toCount? : Text → Option Nat
  | [] => none
  | ['+'] => none
  | '+' :: cs => countFrom 0 cs
  | cs => countFrom 0 cs

end LineShell.Text
