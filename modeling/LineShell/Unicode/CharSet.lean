import LineShell.Text.Basic

/-!
# Sets of characters

A set of characters is a list of ranges of code points in increasing order, none touching the
next.  `CharSet.ofRanges` brings any ranges into this form; the operations keep it.

The tables of the Unicode properties are written as text: `CharSet.ofRuns` reads how many code
points are out and how many are in, in turns, in base 36.
-/

namespace LineShell

/-- A set of characters as ranges of code points, both ends included. -/
structure CharSet where
  ranges : List (Nat × Nat) := []
deriving DecidableEq, Repr

namespace CharSet

/-- The last code point. -/
def maxCode : Nat := 0x10FFFF

/-- Whether a code point is in the set. -/
def hasCode (s : CharSet) (n : Nat) : Bool := s.ranges.any fun (lo, hi) => lo ≤ n && n ≤ hi

/-- Whether a character is in the set. -/
def contains (s : CharSet) (c : Char) : Bool := s.hasCode c.toNat

/-- Joins ranges that overlap or touch, after the range from `lo` to `hi`; they come in order of
    their low ends. -/
def mergeFrom (lo hi : Nat) : List (Nat × Nat) → List (Nat × Nat)
  | [] => [(lo, hi)]
  | (lo', hi') :: rest =>
    if lo' ≤ hi + 1 then mergeFrom lo (max hi hi') rest else (lo, hi) :: mergeFrom lo' hi' rest

/-- Joins ranges that overlap or touch; they come in order of their low ends. -/
def mergeSorted : List (Nat × Nat) → List (Nat × Nat)
  | [] => []
  | (lo, hi) :: rest => mergeFrom lo hi rest

/-- The set of some ranges in any order; a range whose ends are reversed is empty. -/
def ofRanges (rs : List (Nat × Nat)) : CharSet :=
  ⟨mergeSorted ((rs.filter fun (lo, hi) => lo ≤ hi).mergeSort fun a b => a.1 ≤ b.1)⟩

/-- The set of one character. -/
def single (c : Char) : CharSet := ⟨[(c.toNat, c.toNat)]⟩

/-- The characters of either set. -/
def union (s t : CharSet) : CharSet := ofRanges (s.ranges ++ t.ranges)

/-- The gaps between ranges from code point `start` on. -/
def gapsFrom (start : Nat) : List (Nat × Nat) → List (Nat × Nat)
  | [] => if start ≤ maxCode then [(start, maxCode)] else []
  | (lo, hi) :: rest =>
    if start < lo then (start, lo - 1) :: gapsFrom (hi + 1) rest else gapsFrom (hi + 1) rest

/-- The characters that are not in the set. -/
def complement (s : CharSet) : CharSet := ⟨gapsFrom 0 s.ranges⟩

/-- The characters of both sets. -/
def inter (s t : CharSet) : CharSet := (s.complement.union t.complement).complement

/-- The characters of the first set that are not in the second. -/
def diff (s t : CharSet) : CharSet := s.inter t.complement

/-- The characters of exactly one of the sets. -/
def symmDiff (s t : CharSet) : CharSet := (s.diff t).union (t.diff s)

/-- Every character. -/
def all : CharSet := ⟨[(0, maxCode)]⟩

/-- The characters below U+0080. -/
def ascii : CharSet := ⟨[(0, 0x7F)]⟩

/-- Whether every character of the set is below U+0080. -/
def isAscii (s : CharSet) : Bool := s.ranges.all fun (_, hi) => hi ≤ 0x7F

/-! ## Tables -/

/-- The value of a digit in base 36. -/
def digit36 (c : Char) : Nat :=
  if 'a' ≤ c then c.toNat - 'a'.toNat + 10 else c.toNat - '0'.toNat

/-- The value of a number in base 36. -/
def number36 (s : Text) : Nat := s.foldl (fun n c => n * 36 + digit36 c) 0

/-- The ranges of a list of lengths: out, in, out, in, from code point `start` on. -/
def rangesOfRuns (start : Nat) : List Text → List (Nat × Nat)
  | out :: run :: rest =>
    let lo := start + number36 out
    let hi := lo + number36 run
    (lo, hi - 1) :: rangesOfRuns hi rest
  | _ => []

/-- Reads a table of lengths. -/
def ofRuns (table : String) : CharSet := ⟨rangesOfRuns 0 (Text.words table.toList)⟩

/-- The ranges of a list of lengths, each with the name of the value that holds there. -/
def namedRanges (start : Nat) : List Text → List (Text × Nat × Nat)
  | run :: name :: rest =>
    let next := start + number36 run
    (name, start, next - 1) :: namedRanges next rest
  | _ => []

/-- Reads from a table of lengths and names the set of a name. -/
def ofNamedRuns (table : String) (name : Text) : CharSet :=
  ⟨(namedRanges 0 (Text.words table.toList)).filterMap fun (n, lo, hi) =>
    if n = name then some (lo, hi) else none⟩

end CharSet

end LineShell
