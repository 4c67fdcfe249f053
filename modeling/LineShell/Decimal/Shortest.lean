import LineShell.Text.Basic

/-!
# Decimals and double precision

A `Decimal` is a count of units of a power of ten.  `Binary.nearest?` rounds a fraction to double
precision, ties to even; `Binary.shortest` finds the decimal of the fewest digits that rounds to a
given number, and of those the nearest to it.
-/

namespace LineShell

/-- A number of units of ten to the `exponent`. -/
structure Decimal where
  digits : Nat
  exponent : Int
deriving DecidableEq, Repr

/-- A number of units of two to the `exponent`. -/
structure Binary where
  digits : Nat
  exponent : Int
deriving DecidableEq, Repr

namespace Decimal

/-- The decimal as a fraction. -/
def toFraction (d : Decimal) : Nat × Nat :=
  (d.digits * Nat.pow 10 d.exponent.toNat, Nat.pow 10 (-d.exponent).toNat)

/-- The same number without zeros at the end of its digits; at most `steps` are dropped. -/
def dropZeros (d : Decimal) : (steps : Nat) → Decimal
  | 0 => d
  | steps + 1 =>
    if d.digits % 10 = 0 ∧ d.digits ≠ 0 then dropZeros ⟨d.digits / 10, d.exponent + 1⟩ steps
    else d

/-- The text of a decimal, without an exponent and with a digit on either side of the point. -/
def text (d : Decimal) : Text :=
  let digits := Text.ofNat d.digits
  if 0 ≤ d.exponent then
    (if d.digits = 0 then ['0'] else digits ++ List.replicate d.exponent.toNat '0') ++ ['.', '0']
  else
    let places := (-d.exponent).toNat
    let padded := List.replicate (places + 1 - digits.length) '0' ++ digits
    padded.take (padded.length - places) ++ '.' :: padded.drop (padded.length - places)

end Decimal

namespace Binary

/-- The least exponent of two. -/
def minExponent : Int := -1074

/-- The greatest exponent of two. -/
def maxExponent : Int := 971

/-- No number has more units than this. -/
def digitLimit : Nat := Nat.pow 2 53

/-- The number as a fraction. -/
def toFraction (b : Binary) : Nat × Nat :=
  (b.digits * Nat.pow 2 b.exponent.toNat, Nat.pow 2 (-b.exponent).toNat)

/-- A quotient rounded to the nearest whole number, ties to even. -/
def roundQuotient (num den : Nat) : Nat :=
  let q := num / den
  let r := 2 * (num % den)
  if r < den ∨ (r = den ∧ q % 2 = 0) then q else q + 1

/-- How many units of two to the `exponent` a fraction has, rounded. -/
def unitsOf (num den : Nat) (exponent : Int) : Nat :=
  roundQuotient (num * Nat.pow 2 (-exponent).toNat) (den * Nat.pow 2 exponent.toNat)

/-- A fraction rounded to double precision; none if it is too large. -/
def nearest? (num den : Nat) : Option Binary :=
  let guess : Int := (num.log2 : Int) - den.log2 - 53
  let start := max guess minExponent
  let candidates := [start, start + 1, start + 2].map fun e => (⟨unitsOf num den e, e⟩ : Binary)
  (candidates.find? fun b => b.digits < digitLimit).filter fun b => b.exponent ≤ maxExponent

/-- How many digits a fraction has before the point; below one, minus the zeros after it.  At most
    `steps` zeros are counted. -/
def magnitude (num den : Nat) : (steps : Nat) → Int
  | 0 => 0
  | steps + 1 =>
    if den ≤ num then (Text.ofNat (num / den)).length
    else if den ≤ num * 10 then 0
    else magnitude (num * 10) den steps - 1

/-- The decimal of `count` digits nearest to a number, if it rounds to that number. -/
def shortestOf (b : Binary) (num den : Nat) (size : Int) (count : Nat) : Option Decimal :=
  let exponent := size - count
  let scaled := (num * Nat.pow 10 (-exponent).toNat, den * Nat.pow 10 exponent.toNat)
  let low := scaled.1 / scaled.2
  let fits (n : Nat) : Bool :=
    let (p, q) := Decimal.toFraction ⟨n, exponent⟩
    match nearest? p q with
    | some c => c.toFraction.1 * b.toFraction.2 = b.toFraction.1 * c.toFraction.2
    | none => false
  let nearer := roundQuotient scaled.1 scaled.2
  let other := if nearer = low then low + 1 else low
  if fits nearer then some (Decimal.dropZeros ⟨nearer, exponent⟩ 20)
  else if fits other then some (Decimal.dropZeros ⟨other, exponent⟩ 20)
  else none

/-- The decimal of the fewest digits that rounds to a number. -/
def shortest (b : Binary) : Decimal :=
  if b.digits = 0 then ⟨0, 0⟩
  else
    let (num, den) := b.toFraction
    let size := magnitude num den 400
    ((List.range 17).findSome? fun n => shortestOf b num den size (n + 1)).getD ⟨num / den, 0⟩

end Binary

end LineShell
