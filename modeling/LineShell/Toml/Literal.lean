import LineShell.Toml.Scan

/-!
# Strings, numbers and dates

**Strings.**  Four forms: between one or three quotes, which may be double (with escapes) or
single (without).

**Numbers.**  Underscores may stand between digits.  A number with a fraction or an exponent is a
float, any other an integer, which has to fit 64 bits.

**Dates.**  A date, a time, or both, of which only the form is kept.
-/

namespace LineShell.Toml

open Scan

/-! ## Strings -/

/-- Whether a character stands for itself between double quotes. -/
def isBasicChar (c : Char) : Bool :=
  c = '\t' || (0x20 ≤ c.toNat && c ≠ '"' && c ≠ '\\' && c.toNat ≠ 0x7F)

/-- Whether a character stands for itself between single quotes. -/
def isLiteralChar (c : Char) : Bool :=
  c = '\t' || (0x20 ≤ c.toNat && c ≠ '\'' && c.toNat ≠ 0x7F)

/-- Whether a character is a hexadecimal digit. -/
def isHexDigit (c : Char) : Bool :=
  c.isDigit || ('a' ≤ c && c ≤ 'f') || ('A' ≤ c && c ≤ 'F')

/-- The value of a digit. -/
def digitValue (c : Char) : Nat :=
  if c.isDigit then c.toNat - '0'.toNat else c.toLower.toNat - 'a'.toNat + 10

/-- The value of some digits. -/
def digitsValue (base : Nat) (digits : Text) : Nat :=
  digits.foldl (fun n c => n * base + digitValue c) 0

/-- The character of a code of so many hexadecimal digits. -/
def codeEscape (count : Nat) : Scan Char :=
  (times count isHexDigit).check fun digits =>
    let n := digitsValue 16 digits
    if n < 0xD800 ∨ (0xDFFF < n ∧ n < 0x110000) then .ok (Char.ofNat n) else .error .outOfRange

/-- What may follow a backslash. -/
def escapeLetters : List Text := ["b", "f", "n", "r", "t", "u", "U", "\\", "\""].map String.toList

/-- The problem of a backslash before anything else. -/
def badEscape : Problem where
  label := some "escape sequence".toList
  expected := escapeLetters.map fun s => '`' :: (s ++ ['`'])

/-- An escaped character. -/
def escaped : Scan Char := do
  exactly "\\"
  fun s =>
    match s with
    | [] => .miss {} s
    | c :: rest =>
      if c = 'b' then .ok '\x08' rest
      else if c = 'f' then .ok '\x0c' rest
      else if c = 'n' then .ok '\n' rest
      else if c = 'r' then .ok '\r' rest
      else if c = 't' then .ok '\t' rest
      else if c = '\\' ∨ c = '"' then .ok c rest
      else if c = 'u' then (codeEscape 4).cut.label "unicode 4-digit hex code" rest
      else if c = 'U' then (codeEscape 8).cut.label "unicode 8-digit hex code" rest
      else .stop badEscape (if c.toNat < 0x80 then rest else s)

/-- Some text of a string in double quotes. -/
def basicPiece : Scan Text :=
  orElse (takeWhile1 isBasicChar) (do return [← escaped])

/-- A string in double quotes. -/
def basicString : Scan Text := do
  exactly "\""
  let pieces ← many basicPiece
  (exactly "\"").cut.label "basic string"
  return pieces.flatten

/-- A string in single quotes. -/
def literalString : Scan Text :=
  label "literal string" do
    exactly "'"
    let body ← takeWhile isLiteralChar
    (exactly "'").cut
    return body

/-- One or two quotes, as long as `after` can be read behind them. -/
def innerQuotes (quote : String) (after : Scan Unit) : Scan Text :=
  let run (count : Nat) : Scan Text := do
    let quotes := String.join (List.replicate count quote)
    exactly quotes
    after.peek
    return quotes.toList
  orElse (run 2) (run 1)

/-- The text between three quotes: pieces, with one or two quotes before a piece or at the
    end. -/
def longBody (quote : String) (piece : Scan Text) : Scan Text := do
  let pieces ← many (orElse piece (innerQuotes quote (do let _ ← piece)))
  let last ← optional (innerQuotes quote (exactly (String.join (List.replicate 3 quote))))
  return pieces.flatten ++ last.getD []

/-- A backslash at the end of a line, with all blanks after it. -/
def lineJoin : Scan Unit := do
  exactly "\\"
  let _ ← blanks
  newline
  let blank : Scan Unit := do
    let _ ← takeWhile1 fun c => c = ' ' || c = '\t'
  let _ ← many (orElse newline blank)

/-- Some text of a string in three double quotes. -/
def longBasicPiece : Scan Text :=
  orElse (takeWhile1 isBasicChar)
    (orElse (do lineJoin; return [])
      (orElse (do return [← escaped]) (do newline; return ['\n'])))

/-- A string in three double quotes. -/
def longBasicString : Scan Text :=
  label "multiline basic string" do
    exactly "\"\"\""
    let _ ← optional newline
    let body ← (longBody "\"" longBasicPiece).cut
    (exactly "\"\"\"").cut
    return body

/-- Some text of a string in three single quotes. -/
def longLiteralPiece : Scan Text :=
  orElse (takeWhile1 isLiteralChar) (do newline; return ['\n'])

/-- A string in three single quotes. -/
def longLiteralString : Scan Text :=
  label "multiline literal string" do
    exactly "'''"
    let _ ← optional newline
    let body ← (longBody "'" longLiteralPiece).cut
    (exactly "'''").cut
    return body

/-- A string. -/
def string : Scan Text :=
  orElse longBasicString (orElse basicString (orElse longLiteralString literalString))

/-! ## Numbers -/

/-- Digits after others, with single underscores before them. -/
def moreDigits (isDigit : Char → Bool) : Scan Text :=
  many (orElse (one isDigit) (do
    exactly "_"
    ((one isDigit).cut).expecting "digit"))

/-- A sign, if there is one: whether it is a minus. -/
def sign : Scan Bool := do
  let c ← optional (one fun c => c = '+' || c = '-')
  return c = some '-'

/-- A whole number: its sign and its digits. -/
def decimalInteger : Scan (Bool × Text) :=
  label "integer" do
    let negative ← sign
    let long : Scan Text := do
      let first ← one fun c => '1' ≤ c && c ≤ '9'
      return first :: (← moreDigits Char.isDigit)
    let digits ← orElse long (do return [← one Char.isDigit])
    return (negative, digits)

/-- Digits that may start with zeros. -/
def digitRun : Scan Text := do
  let first ← one Char.isDigit
  return first :: (← moreDigits Char.isDigit)

/-- A number, if it fits 64 bits. -/
def toInteger (negative : Bool) (n : Nat) : Except Cause Int :=
  if negative then (if n ≤ Nat.pow 2 63 then .ok (-n) else .error .numberTooSmall)
  else if n < Nat.pow 2 63 then .ok n else .error .numberTooLarge

/-- Digits of another base after a mark. -/
def basedInteger (mark : String) (base : Nat) (isDigit : Char → Bool) (name : String) :
    Scan Int :=
  let digits : Scan Text :=
    label name do
      exactly mark
      let first ← (one isDigit).cut
      return first :: (← (moreDigits isDigit).cut)
  (digits.check fun ds => toInteger false (digitsValue base ds)).cut

/-- An integer. -/
def integer : Scan Int := fun s =>
  match s with
  | '0' :: 'x' :: _ => basedInteger "0x" 16 isHexDigit "hexadecimal integer" s
  | '0' :: 'o' :: _ => basedInteger "0o" 8 (fun c => '0' ≤ c && c ≤ '7') "octal integer" s
  | '0' :: 'b' :: _ => basedInteger "0b" 2 (fun c => c = '0' || c = '1') "binary integer" s
  | _ =>
    match decimalInteger s with
    | .miss why rest => .miss why rest
    | .stop why rest => .stop why rest
    | .ok (negative, digits) rest =>
      match toInteger negative (digitsValue 10 digits) with
      | .ok n => .ok n rest
      | .error cause => .stop { cause := some cause } s

/-- An exponent of ten: its sign and its digits. -/
def exponent : Scan (Bool × Text) := do
  let _ ← one fun c => c = 'e' || c = 'E'
  let negative ← sign
  return (negative, ← digitRun.cut)

/-- A fraction: the digits after the point. -/
def fraction : Scan Text := do
  exactly "."
  digitRun.cut.expecting "digit"

/-- The parts of a decimal number. -/
structure FloatParts where
  negative : Bool
  whole : Text
  fraction : Text := []
  exponent : Bool × Text := (false, [])

/-- Whole part, then an exponent or a fraction, which may have an exponent too. -/
def floatParts : Scan FloatParts := do
  let (negative, whole) ← decimalInteger
  let short : Scan FloatParts := do
    return ⟨negative, whole, [], ← exponent⟩
  let long : Scan FloatParts := do
    let digits ← fraction
    let power ← optional exponent
    return ⟨negative, whole, digits, power.getD (false, [])⟩
  orElse short long

/-- Powers of ten beyond this bound leave double precision in any case. -/
def exponentBound : Int := 400

/-- The value of a decimal number in double precision. -/
def FloatParts.value (p : FloatParts) : Real :=
  let digits := digitsValue 10 (p.whole ++ p.fraction)
  let power : Int := digitsValue 10 p.exponent.2
  let exponent := (if p.exponent.1 then -power else power) - p.fraction.length
  let size : Int := (Text.ofNat digits).length + exponent
  if digits = 0 ∨ size < -exponentBound then .finite p.negative ⟨0, Binary.minExponent⟩
  else if size > exponentBound then .infinite p.negative
  else
    let (num, den) := Decimal.toFraction ⟨digits, exponent⟩
    match Binary.nearest? num den with
    | some b => .finite p.negative b
    | none => .infinite p.negative

/-- A float.  A number that is too large is refused, unless it is negative. -/
def float : Scan Real :=
  label "floating-point number" fun s =>
    match floatParts s with
    | .stop why rest => .stop why rest
    | .ok parts rest =>
      if parts.value = .infinite false then .stop {} s else .ok parts.value rest
    | .miss _ _ =>
      (do
        let negative ← sign
        let infinity : Scan Real := do exactly "inf"; return .infinite negative
        orElse infinity (do exactly "nan"; return .notANumber) : Scan Real) s

/-! ## Dates -/

/-- A number of two digits between two bounds. -/
def twoDigits (low high : Nat) : Scan Nat :=
  (times 2 Char.isDigit).check fun digits =>
    let n := digitsValue 10 digits
    if low ≤ n ∧ n ≤ high then .ok n else .error .outOfRange

/-- How many days a month has. -/
def daysIn (year month : Nat) : Nat :=
  if month = 2 then
    if year % 4 = 0 ∧ (year % 100 ≠ 0 ∨ year % 400 = 0) then 29 else 28
  else if month = 4 ∨ month = 6 ∨ month = 9 ∨ month = 11 then 30
  else 31

/-- A date. -/
def fullDate : Scan Unit := do
  let year ← times 4 Char.isDigit
  exactly "-"
  let month ← (twoDigits 1 12).cut
  (exactly "-").cut
  let _ ← ((twoDigits 1 31).check fun day =>
    if day ≤ daysIn (digitsValue 10 year) month then .ok () else .error .outOfRange).cut

/-- A time of day. -/
def timeOfDay : Scan Unit := do
  let _ ← twoDigits 0 23
  exactly ":"
  let _ ← (twoDigits 0 59).cut
  (exactly ":").cut
  let _ ← (twoDigits 0 60).cut
  let _ ← optional (do
    exactly "."
    takeWhile1 Char.isDigit)

/-- The distance from universal time. -/
def timeOffset : Scan Unit :=
  label "time offset" do
    let numeric : Scan Unit := do
      let _ ← one fun c => c = '+' || c = '-'
      let _ ← (twoDigits 0 23).cut
      (exactly ":").cut
      let _ ← (twoDigits 0 59).cut
    let zulu : Scan Unit := do
      let _ ← one fun c => c = 'Z' || c = 'z'
    orElse zulu numeric

/-- A date with or without a time, or a time. -/
def datetime : Scan Unit :=
  let dated : Scan Unit := do
    fullDate
    let _ ← optional (do
      let _ ← one fun c => c = 'T' || c = 't' || c = ' '
      timeOfDay
      let _ ← optional timeOffset)
  orElse (dated.label "date-time") (timeOfDay.label "time")

end LineShell.Toml
