import LineShell.Regex.Cursor

/-!
# Single parts of a pattern

Characters, escapes, classes written with a backslash, and assertions: all that is read without
looking inside groups or brackets.
-/

namespace LineShell.Regex

/-- A part of a pattern that has no parts of its own. -/
inductive Primitive where
  | literal (lit : Literal)
  | assertion (span : Span) (kind : Assertion)
  | dot (span : Span)
  | short (span : Span) (kind : ShortClass) (negated : Bool)
  | property (cls : PropertyClass)

namespace Primitive

/-- Where the part stands. -/
def span : Primitive → Span
  | literal lit => lit.span
  | assertion span _ => span
  | dot span => span
  | short span _ _ => span
  | property cls => cls.span

/-- The part as a pattern. -/
def toAst : Primitive → Ast
  | literal lit => .literal lit
  | assertion span kind => .assertion span kind
  | dot span => .dot span
  | short span kind negated => .short span kind negated
  | property cls => .property cls

/-- The part as an item in brackets, where assertions and the dot have no place. -/
def toItem : Primitive → Parse SetAst
  | literal lit => return .literal lit
  | short span kind negated => return .short span kind negated
  | property cls => return .property cls
  | assertion span _ => fail span.start span.stop .classEscapeInvalid
  | dot span => fail span.start span.stop .classEscapeInvalid

/-- The part as an end of a range, which has to be a character. -/
def toBoundary : Primitive → Parse Literal
  | literal lit => return lit
  | p => fail p.span.start p.span.stop .classRangeLiteral

end Primitive

/-! ## Characters by number -/

/-- Whether a character is a hexadecimal digit. -/
def isHex (c : Char) : Bool :=
  c.isDigit || ('a' ≤ c && c ≤ 'f') || ('A' ≤ c && c ≤ 'F')

/-- The value of a hexadecimal digit. -/
def hexDigit (c : Char) : Nat :=
  if c.isDigit then c.toNat - '0'.toNat
  else if 'a' ≤ c then c.toNat - 'a'.toNat + 10
  else c.toNat - 'A'.toNat + 10

/-- The character with a hexadecimal number; surrogates and numbers past the last code point have
    none. -/
def charOfHex? (digits : Text) : Option Char :=
  let n := digits.foldl (fun n c => n * 16 + hexDigit c) 0
  if n.isValidChar then some (Char.ofNat n) else none

/-- Reads so many hexadecimal digits. -/
def hexDigits : (count : Nat) → (first : Bool) → Parse Text
  | 0, _ => return []
  | count + 1, first => do
    unless first do
      unless ← bumpAndSpace do
        let p ← position
        fail p p .escapeUnexpectedEnd
    let p ← position
    match ← current with
    | some c =>
      unless isHex c do fail p (p + 1) .escapeHexInvalidDigit
      return c :: (← hexDigits count false)
    | none => fail p p .escapeUnexpectedEnd

/-- Reads hexadecimal digits up to a closing brace, from the one before them on; `limit` bounds
    how many. -/
def braceDigits : (limit : Nat) → Parse Text
  | 0 => return []
  | limit + 1 => do
    if ← bumpAndSpace then
      let p ← position
      match ← current with
      | some c =>
        if c = '}' then return []
        else
          unless isHex c do fail p (p + 1) .escapeHexInvalidDigit
          return c :: (← braceDigits limit)
      | none => return []
    else return []

/-- Reads a character given by its number, from the letter after the backslash on. -/
def parseHex (start : Nat) (letter : Char) : Parse Primitive := do
  unless ← bumpAndSpace do
    let p ← position
    fail p p .escapeUnexpectedEnd
  if ← at? '{' then
    let brace ← position
    let digits ← braceDigits ((← get).rest.length + 1)
    if ← atEnd then fail brace (← position) .escapeUnexpectedEnd
    let stop ← position
    let _ ← bumpAndSpace
    let after ← position
    if digits.isEmpty then fail brace after .escapeHexEmpty
    match charOfHex? digits with
    | some c => return .literal { span := ⟨start, after⟩, char := c }
    | none => fail (brace + 1) stop .escapeHexInvalid
  else
    let first ← position
    let count := if letter = 'x' then 2 else if letter = 'u' then 4 else 8
    let digits ← hexDigits count true
    let _ ← bumpAndSpace
    let after ← position
    match charOfHex? digits with
    | some c => return .literal { span := ⟨start, after⟩, char := c, byte := letter = 'x' }
    | none => fail first after .escapeHexInvalid

/-! ## Classes by property -/

/-- Reads a name up to a closing brace, from the opening one on; `limit` bounds its length. -/
def braceName : (limit : Nat) → Parse Text
  | 0 => return []
  | limit + 1 => do
    if ← bumpAndSpace then
      match ← current with
      | some c => if c = '}' then return [] else return c :: (← braceName limit)
      | none => return []
    else return []

/-- A name with a value after `!=`, `:` or `=`, tried in this order. -/
def splitValue (name : Text) : Text × Option Text :=
  match Text.splitOnce "!=".toList name with
  | some (n, v) => (n, some v)
  | none =>
    match Text.splitOnce [':'] name with
    | some (n, v) => (n, some v)
    | none =>
      match Text.splitOnce ['='] name with
      | some (n, v) => (n, some v)
      | none => (name, none)

/-- Reads a class by property, from the letter after the backslash on. -/
def parseProperty (start : Nat) (negated : Bool) : Parse Primitive := do
  unless ← bumpAndSpace do
    let p ← position
    fail p p .escapeUnexpectedEnd
  if ← at? '{' then
    let name ← braceName ((← get).rest.length + 1)
    if ← atEnd then
      let p ← position
      fail p p .escapeUnexpectedEnd
    let _ ← bump
    let (name, value) := splitValue name
    return .property ⟨⟨start, ← position⟩, negated, name, value⟩
  else
    let p ← position
    match ← current with
    | some c =>
      if c = '\\' then fail p (p + 1) .unicodeClassInvalid
      let _ ← bumpAndSpace
      return .property ⟨⟨start, ← position⟩, negated, [c], none⟩
    | none => fail p p .escapeUnexpectedEnd

/-! ## Word boundaries with a name -/

/-- Reads what may follow a word boundary in braces.  Braces that start with anything but a
    letter or a hyphen are left for a repetition. -/
def parseBoundaryName (start : Nat) : Parse (Option Assertion) := do
  let valid (c : Char) : Bool := c.isAlpha || c = '-'
  let before ← get
  let brace ← position
  unless ← bumpAndSpace do fail start (← position) .wordBoundaryUnexpectedEnd
  let contents ← position
  if (← current).all fun c => !valid c then
    set before
    return none
  let name ← takeChars valid before.total
  unless ← at? '}' do fail brace (← position) .wordBoundaryUnclosed
  let stop ← position
  let _ ← bump
  if name = "start".toList then return some .wordStart
  else if name = "end".toList then return some .wordEnd
  else if name = "start-half".toList then return some .wordStartHalf
  else if name = "end-half".toList then return some .wordEndHalf
  else fail contents stop .wordBoundaryUnrecognized

/-! ## Escapes -/

/-- Whether a character has a meaning of its own in patterns. -/
def isMeta (c : Char) : Bool := "\\.+*?()|[]\x7b\x7d^$#&-~".toList.contains c

/-- Whether a backslash may stand before a character that then means itself. -/
def isEscapable (c : Char) : Bool :=
  isMeta c || (c.toNat < 0x80 && !c.isAlphanum && c != '<' && c != '>')

/-- The control characters that are written with a letter. -/
def controlChar? (c : Char) : Option Char :=
  if c = 'a' then some '\x07' else if c = 'f' then some '\x0c'
  else if c = 't' then some '\t' else if c = 'n' then some '\n'
  else if c = 'r' then some '\r' else if c = 'v' then some '\x0b' else none

/-- The classes that are written with a letter, and whether they are negated. -/
def shortClass? (c : Char) : Option (ShortClass × Bool) :=
  if c = 'd' then some (.digit, false) else if c = 'D' then some (.digit, true)
  else if c = 's' then some (.space, false) else if c = 'S' then some (.space, true)
  else if c = 'w' then some (.word, false) else if c = 'W' then some (.word, true)
  else none

/-- The assertions that are written with a letter or an angle. -/
def assertion? (c : Char) : Option Assertion :=
  if c = 'A' then some .textStart else if c = 'z' then some .textEnd
  else if c = 'b' then some .wordBoundary else if c = 'B' then some .notWordBoundary
  else if c = '<' then some .wordStart else if c = '>' then some .wordEnd else none

/-- Reads an escape. -/
def parseEscape : Parse Primitive := do
  let start ← position
  unless ← bump do fail start (← position) .escapeUnexpectedEnd
  let letter := (← current).getD '\\'
  let p ← position
  if letter.isDigit then fail start (p + 1) .unsupportedBackreference
  if letter = 'x' ∨ letter = 'u' ∨ letter = 'U' then return ← parseHex start letter
  if letter = 'p' ∨ letter = 'P' then return ← parseProperty start (letter = 'P')
  let _ ← bump
  let span : Span := ⟨start, ← position⟩
  if let some (kind, negated) := shortClass? letter then return .short span kind negated
  if isEscapable letter then return .literal { span, char := letter }
  if let some c := controlChar? letter then return .literal { span, char := c }
  match assertion? letter with
  | some kind =>
    if letter = 'b' then
      if ← at? '{' then
        if let some named ← parseBoundaryName start then
          return .assertion ⟨start, ← position⟩ named
    return .assertion span kind
  | none => fail span.start span.stop .escapeUnrecognized

/-- Reads a part that is neither a group nor in brackets nor a repetition. -/
def parsePrimitive : Parse Primitive := do
  let start ← position
  let span : Span := ⟨start, start + 1⟩
  match ← current with
  | some c =>
    if c = '\\' then parseEscape
    else
      let _ ← bump
      if c = '.' then return .dot span
      else if c = '^' then return .assertion span .lineStart
      else if c = '$' then return .assertion span .lineEnd
      else return .literal { span, char := c }
  | none => fail start start .escapeUnexpectedEnd

end LineShell.Regex
