import LineShell.Regex.Error
import LineShell.Unicode.Property

/-!
# Moving through a pattern

The reader of a pattern holds the characters it has not read.  Positions are counted from the
front, so the position is the length of the pattern less that of the rest.

While blanks are ignored (flag `x`), blanks and comments from `#` to the end of the line are
skipped between the parts of a pattern.
-/

namespace LineShell.Regex

/-- What the reader of a pattern holds. -/
structure Cursor where
  /-- The length of the whole pattern. -/
  total : Nat
  /-- What has not been read. -/
  rest : Text
  /-- Blanks and comments are skipped. -/
  ignoreBlanks : Bool := false
  /-- The names of groups so far. -/
  names : List (Text × Span) := []

/-- Reading part of a pattern. -/
abbrev Parse := StateT Cursor (Except Located)

/-- Fails with a fault. -/
def fail {α : Type} (start stop : Nat) (fault : Fault) : Parse α :=
  throw { span := ⟨start, stop⟩, fault }

/-- The position. -/
def position : Parse Nat := do
  let c ← get
  return c.total - c.rest.length

/-- The character at the position. -/
def current : Parse (Option Char) := do
  let c ← get
  return c.rest.head?

/-- The character after the one at the position. -/
def peek : Parse (Option Char) := do
  let c ← get
  return (c.rest.drop 1).head?

/-- Whether the character at the position is this one. -/
def at? (d : Char) : Parse Bool := do
  return (← current) == some d

/-- Whether the pattern ends here. -/
def atEnd : Parse Bool := do
  return (← current).isNone

/-- Moves past a character; answers whether there is another. -/
def bump : Parse Bool := do
  modify fun c => { c with rest := c.rest.drop 1 }
  return !(← atEnd)

/-- The text without leading blanks and comments. -/
def skipBlanks : (inComment : Bool) → Text → Text
  | _, [] => []
  | true, c :: cs => skipBlanks (c != '\n') cs
  | false, c :: cs =>
    if isBlank c then skipBlanks false cs
    else if c = '#' then skipBlanks true cs
    else c :: cs

/-- Skips blanks and comments if they are ignored. -/
def bumpSpace : Parse Unit :=
  modify fun c => if c.ignoreBlanks then { c with rest := skipBlanks false c.rest } else c

/-- Moves past a character and what is ignored after it; answers whether there is another. -/
def bumpAndSpace : Parse Bool := do
  if ← bump then
    bumpSpace
    return !(← atEnd)
  else return false

/-- Moves past a text if it stands here. -/
def bumpIf (s : String) : Parse Bool := do
  let c ← get
  if s.toList.isPrefixOf c.rest then
    set { c with rest := c.rest.drop s.length }
    return true
  else return false

/-- The character after the one at the position, blanks skipped if they are ignored.  Of a
    comment its first character is seen. -/
def peekSpace : Parse (Option Char) := do
  let c ← get
  let after := c.rest.drop 1
  if c.ignoreBlanks then
    let bare := after.dropWhile isBlank
    if bare.head? = some '#' then
      return ((bare.drop 1).dropWhile isBlank).head?
    else return bare.head?
  else return after.head?

/-- Reads characters as long as `keep` holds, skipping what is ignored after each; `limit` bounds
    how many. -/
def takeChars (keep : Char → Bool) : (limit : Nat) → Parse Text
  | 0 => return []
  | limit + 1 => do
    match ← current with
    | some c =>
      if keep c then
        let _ ← bumpAndSpace
        return c :: (← takeChars keep limit)
      else return []
    | none => return []

/-- Skips blanks, whether they are ignored elsewhere or not. -/
def skipAnyBlanks : Parse Unit :=
  modify fun c => { c with rest := c.rest.dropWhile isBlank }

end LineShell.Regex
