import LineShell.Regex.Ast

/-!
# What is wrong with a regular expression

An `Error` is a fault with the stretch of the pattern it is about, and a second stretch for a
fault about something repeated.

`Error.message` shows the pattern with carets under the stretch.  A pattern of several lines is
shown with line numbers between two rules, and a stretch over several lines is given in words.
-/

namespace LineShell.Regex

/-- What can be wrong with a pattern. -/
inductive Fault where
  | classEscapeInvalid
  | classRangeInvalid
  | classRangeLiteral
  | classUnclosed
  | decimalInvalid
  | escapeHexEmpty
  | escapeHexInvalid
  | escapeHexInvalidDigit
  | escapeUnexpectedEnd
  | escapeUnrecognized
  | flagDanglingNegation
  | flagDuplicate
  | flagRepeatedNegation
  | flagUnexpectedEnd
  | flagUnrecognized
  | groupNameDuplicate
  | groupNameEmpty
  | groupNameInvalid
  | groupNameUnexpectedEnd
  | groupUnclosed
  | groupUnopened
  | nestLimitExceeded (limit : Nat)
  | repetitionCountInvalid
  | repetitionCountEmpty
  | repetitionCountUnclosed
  | repetitionMissing
  | wordBoundaryUnclosed
  | wordBoundaryUnrecognized
  | wordBoundaryUnexpectedEnd
  | unicodeClassInvalid
  | unsupportedBackreference
  | unsupportedLookAround
  | unicodeNotAllowed
  | invalidUtf8
  | unknownProperty
  | unknownPropertyValue
deriving DecidableEq, Repr

/-- The wording of a fault. -/
def Fault.message : Fault → Text
  | classEscapeInvalid => "invalid escape sequence found in character class".toList
  | classRangeInvalid =>
    "invalid character class range, the start must be <= the end".toList
  | classRangeLiteral => "invalid range boundary, must be a literal".toList
  | classUnclosed => "unclosed character class".toList
  | decimalInvalid => "decimal literal invalid".toList
  | escapeHexEmpty => "hexadecimal literal empty".toList
  | escapeHexInvalid => "hexadecimal literal is not a Unicode scalar value".toList
  | escapeHexInvalidDigit => "invalid hexadecimal digit".toList
  | escapeUnexpectedEnd =>
    "incomplete escape sequence, reached end of pattern prematurely".toList
  | escapeUnrecognized => "unrecognized escape sequence".toList
  | flagDanglingNegation => "dangling flag negation operator".toList
  | flagDuplicate => "duplicate flag".toList
  | flagRepeatedNegation => "flag negation operator repeated".toList
  | flagUnexpectedEnd => "expected flag but got end of regex".toList
  | flagUnrecognized => "unrecognized flag".toList
  | groupNameDuplicate => "duplicate capture group name".toList
  | groupNameEmpty => "empty capture group name".toList
  | groupNameInvalid => "invalid capture group character".toList
  | groupNameUnexpectedEnd => "unclosed capture group name".toList
  | groupUnclosed => "unclosed group".toList
  | groupUnopened => "unopened group".toList
  | nestLimitExceeded limit =>
    "exceed the maximum number of nested parentheses/brackets (".toList ++ Text.ofNat limit ++
      ")".toList
  | repetitionCountInvalid =>
    "invalid repetition count range, the start must be <= the end".toList
  | repetitionCountEmpty => "repetition quantifier expects a valid decimal".toList
  | repetitionCountUnclosed => "unclosed counted repetition".toList
  | repetitionMissing => "repetition operator missing expression".toList
  | wordBoundaryUnclosed =>
    ("special word boundary assertion is either unclosed or contains an invalid " ++
      "character").toList
  | wordBoundaryUnrecognized =>
    ("unrecognized special word boundary assertion, valid choices are: start, end, " ++
      "start-half or end-half").toList
  | wordBoundaryUnexpectedEnd =>
    ("found either the beginning of a special word boundary or a bounded repetition on a \\b " ++
      "with an opening brace, but no closing brace").toList
  | unicodeClassInvalid => "invalid Unicode character class".toList
  | unsupportedBackreference => "backreferences are not supported".toList
  | unsupportedLookAround =>
    "look-around, including look-ahead and look-behind, is not supported".toList
  | unicodeNotAllowed => "Unicode not allowed here".toList
  | invalidUtf8 => "pattern can match invalid UTF-8".toList
  | unknownProperty => "Unicode property not found".toList
  | unknownPropertyValue => "Unicode property value not found".toList

/-- A fault and where it lies. -/
structure Located where
  span : Span
  fault : Fault
  other : Option Span := none
deriving DecidableEq, Repr

/-- Why a pattern is refused: it is wrong somewhere, or its program would be too large. -/
inductive Error where
  | malformed (pattern : Text) (located : Located)
  | tooBig
deriving DecidableEq, Repr

/-! ## Pointing at a pattern -/

/-- A line of a pattern and a place in it, both counted from one. -/
structure Position where
  line : Nat
  column : Nat
deriving DecidableEq, Repr

/-- The line and column of a position in a pattern. -/
def positionFrom (here : Position) : Text → Nat → Position
  | [], _ => here
  | _, 0 => here
  | c :: cs, n + 1 =>
    positionFrom (if c = '\n' then ⟨here.line + 1, 1⟩ else ⟨here.line, here.column + 1⟩) cs n

/-- A stretch by lines and columns. -/
structure Stretch where
  first : Position
  last : Position
deriving DecidableEq, Repr

/-- A stretch of a pattern by lines and columns. -/
def Span.stretch (pattern : Text) (s : Span) : Stretch :=
  ⟨positionFrom ⟨1, 1⟩ pattern s.start, positionFrom ⟨1, 1⟩ pattern s.stop⟩

/-- The lines of a pattern without their ends. -/
def patternLines (pattern : Text) : List Text :=
  (Text.splitLines pattern).map fun line =>
    let bare := line.dropLast
    if bare.getLast? = some '\r' then bare.dropLast else bare

/-- The carets under the stretches of one line, which come in order. -/
def carets (position : Nat) : List Stretch → Text
  | [] => []
  | s :: rest =>
    let gap := s.first.column - 1 - position
    let length := max 1 (s.last.column - s.first.column)
    List.replicate gap ' ' ++ List.replicate length '^' ++
      carets (position + gap + length) rest

/-- Shows a pattern with carets under some stretches.  `width` is how wide line numbers are, or
    zero to show none. -/
def notate (width : Nat) (stretches : List Stretch) (number : Nat) : List Text → Text
  | [] => []
  | line :: rest =>
    let label := Text.ofNat number
    let start :=
      if width = 0 then List.replicate 4 ' '
      else List.replicate (width - label.length) ' ' ++ label ++ ": ".toList
    let marks := stretches.filter fun s => s.first.line = number
    let under :=
      if marks.isEmpty then []
      else List.replicate (if width = 0 then 4 else width + 2) ' ' ++ carets 0 marks ++ ['\n']
    start ++ line ++ '\n' :: (under ++ notate width stretches (number + 1) rest)

/-- A stretch over several lines in words. -/
def Stretch.words (s : Stretch) : Text :=
  "on line ".toList ++ Text.ofNat s.first.line ++ " (column ".toList ++
    Text.ofNat s.first.column ++ ") through line ".toList ++ Text.ofNat s.last.line ++
    " (column ".toList ++ Text.ofNat (s.last.column - 1) ++ ")\n".toList

/-- The wording of a fault in a pattern. -/
def Located.message (pattern : Text) (e : Located) : Text :=
  let spans := (e.span :: e.other.toList).mergeSort fun a b =>
    a.start < b.start || (a.start = b.start && a.stop ≤ b.stop)
  let stretches := spans.map (Span.stretch pattern)
  let flat := stretches.filter fun s => s.first.line = s.last.line
  let tall := stretches.filter fun s => s.first.line ≠ s.last.line
  let lines := patternLines pattern
  let count := lines.length + if Text.endsLine pattern then 1 else 0
  let width := if count ≤ 1 then 0 else (Text.ofNat count).length
  let shown := notate width flat 1 lines
  let rule := List.replicate 79 '~' ++ ['\n']
  "regex parse error:\n".toList ++
    (if pattern.contains '\n' then rule ++ shown ++ rule ++ tall.flatMap Stretch.words
    else shown) ++
    "error: ".toList ++ e.fault.message

/-- The wording of an error. -/
def Error.message : Error → Text
  | malformed pattern located => located.message pattern
  | tooBig => "Compiled regex exceeds size limit of 10485760 bytes.".toList

end LineShell.Regex
