import LineShell.Regex.Escape

/-!
# Sets in brackets

Items stand side by side for their union; `&&`, `--` and `~~` join what is on either side, from
left to right.  Brackets nest.

The reader keeps a stack of what is open: brackets with the items read before them, and
operations with their left side.
-/

namespace LineShell.Regex

/-- Items read so far and where they start and stop. -/
structure Items where
  span : Span
  items : List SetAst := []

/-- Adds an item. -/
def Items.push (u : Items) (item : SetAst) : Items :=
  { span := ⟨if u.items.isEmpty then item.span.start else u.span.start, item.span.stop⟩
    items := u.items ++ [item] }

/-- The items as one set. -/
def Items.toSet (u : Items) : SetAst :=
  match u.items with
  | [] => .empty u.span
  | [item] => item
  | items => .union u.span items

/-- What is open inside brackets. -/
inductive SetFrame where
  /-- Brackets: the items before them, where they opened, and whether they are negated. -/
  | opened (before : Items) (span : Span) (negated : Bool)
  /-- An operation with its left side. -/
  | operation (op : SetOperation) (left : SetAst)

/-- Completes an operation that waits for its right side. -/
def popOperation (right : SetAst) : List SetFrame → SetAst × List SetFrame
  | .operation op left :: rest =>
    (.operation ⟨left.span.start, right.span.stop⟩ op left right, rest)
  | stack => (right, stack)

/-- Fails because the brackets opened last are not closed. -/
def failUnclosed {α : Type} (stack : List SetFrame) : Parse α :=
  match stack.findSome? fun
    | .opened _ span _ => some span
    | .operation _ _ => none with
  | some span => fail span.start span.stop .classUnclosed
  | none => fail 0 0 .classUnclosed

/-- Reads hyphens at the start of brackets, which mean themselves; `limit` bounds how many. -/
def leadingHyphens (start : Nat) : (limit : Nat) → Items → Parse Items
  | 0, u => return u
  | limit + 1, u => do
    if ← at? '-' then
      let p ← position
      let u := u.push (.literal { span := ⟨p, p + 1⟩, char := '-' })
      unless ← bumpAndSpace do fail start start .classUnclosed
      leadingHyphens start limit u
    else return u

/-- Reads an opening bracket with the negation, the hyphens and the closing bracket that may
    follow it. -/
def openBracket : Parse (Span × Bool × Items) := do
  let start ← position
  unless ← bumpAndSpace do fail start (← position) .classUnclosed
  let negated ← at? '^'
  if negated then
    unless ← bumpAndSpace do fail start (← position) .classUnclosed
  let p ← position
  let u ← leadingHyphens start (← get).total { span := ⟨p, p⟩ }
  if u.items.isEmpty && (← at? ']') then
    let p ← position
    let u := u.push (.literal { span := ⟨p, p + 1⟩, char := ']' })
    unless ← bumpAndSpace do fail start (← position) .classUnclosed
    return (⟨start, ← position⟩, negated, u)
  else return (⟨start, ← position⟩, negated, u)

/-- The names of the classes written as `[:name:]`. -/
def asciiNames : List Text :=
  ["alnum", "alpha", "ascii", "blank", "cntrl", "digit", "graph", "lower", "print", "punct",
    "space", "upper", "word", "xdigit"].map String.toList

/-- Reads a class written as `[:name:]` if there is one. -/
def asciiClass? : Parse (Option SetAst) := do
  let before ← get
  let start ← position
  match before.rest with
  | '[' :: ':' :: cs =>
    let negated := cs.head? = some '^'
    let cs := if negated then cs.drop 1 else cs
    let name := cs.takeWhile (· ≠ ':')
    let after := cs.dropWhile (· ≠ ':')
    if asciiNames.contains name && [':', ']'].isPrefixOf after then
      set { before with rest := after.drop 2 }
      return some (.ascii ⟨start, ← position⟩ name negated)
    else return none
  | _ => return none

/-- Reads a character or an escape in brackets. -/
def bracketPrimitive : Parse Primitive := do
  let p ← position
  match ← current with
  | some c =>
    if c = '\\' then parseEscape
    else
      let _ ← bump
      return .literal { span := ⟨p, p + 1⟩, char := c }
  | none => fail p p .escapeUnexpectedEnd

/-- Reads an item in brackets, which may be a range. -/
def bracketItem (stack : List SetFrame) : Parse SetAst := do
  let low ← bracketPrimitive
  bumpSpace
  if ← atEnd then failUnclosed stack
  let next ← peekSpace
  if !(← at? '-') || next = some ']' || next = some '-' then low.toItem
  else
    unless ← bumpAndSpace do failUnclosed stack
    let high ← bracketPrimitive
    let span : Span := ⟨low.span.start, high.span.stop⟩
    let low ← low.toBoundary
    let high ← high.toBoundary
    if high.char.toNat < low.char.toNat then
      fail span.start span.stop .classRangeInvalid
    return .range span low high

/-- The operation that stands here. -/
def operation? : Parse (Option SetOperation) := do
  if ← bumpIf "&&" then return some .intersection
  else if ← bumpIf "--" then return some .difference
  else if ← bumpIf "~~" then return some .symmetricDifference
  else return none

/-- Reads what is left of a set in brackets; `limit` bounds the steps. -/
def bracketsFrom : (limit : Nat) → List SetFrame → Items → Parse Ast
  | 0, stack, _ => failUnclosed stack
  | limit + 1, stack, u => do
    bumpSpace
    match ← current with
    | none => failUnclosed stack
    | some c =>
      if c = '[' then
        let cls ← if stack.isEmpty then pure none else asciiClass?
        match cls with
        | some item => bracketsFrom limit stack (u.push item)
        | none =>
          let (span, negated, inner) ← openBracket
          bracketsFrom limit (.opened u span negated :: stack) inner
      else if c = ']' then
        let (whole, stack) := popOperation u.toSet stack
        match stack with
        | .opened before span negated :: rest =>
          let _ ← bump
          let span : Span := ⟨span.start, ← position⟩
          if rest.isEmpty then return .set span negated whole
          else bracketsFrom limit rest (before.push (.bracketed span negated whole))
        | stack => failUnclosed stack
      else
        match ← operation? with
        | some op =>
          let (left, stack) := popOperation u.toSet stack
          let p ← position
          bracketsFrom limit (.operation op left :: stack) { span := ⟨p, p⟩ }
        | none => bracketsFrom limit stack (u.push (← bracketItem stack))

/-- Reads a set in brackets. -/
def parseBrackets : Parse Ast := do
  let p ← position
  bracketsFrom ((← get).total + 1) [] { span := ⟨p, p⟩ }

end LineShell.Regex
