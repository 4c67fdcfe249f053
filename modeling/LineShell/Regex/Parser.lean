import LineShell.Regex.Brackets

/-!
# Reading a regular expression

The reader goes from left to right with a stack of what is open: groups with what stood before
them, and alternations with the branches so far.  `Ast.parse` reads a whole pattern and checks
how deep it nests.
-/

namespace LineShell.Regex

/-- Parts that stand one after another. -/
structure Parts where
  start : Nat
  parts : List Ast := []

/-- The parts as one pattern that ends at `stop`. -/
def Parts.toAst (p : Parts) (stop : Nat) : Ast :=
  match p.parts with
  | [] => .empty ⟨p.start, stop⟩
  | [part] => part
  | parts => .concat ⟨p.start, stop⟩ parts

/-- Adds a part. -/
def Parts.push (p : Parts) (part : Ast) : Parts := { p with parts := p.parts ++ [part] }

/-- What is open outside brackets. -/
inductive Frame where
  /-- A group: what stood before it, where it opened, its flags, and whether blanks were ignored
      before it. -/
  | group (before : Parts) (start : Nat) (flags : FlagList) (ignoreBlanks : Bool)
  /-- The branches of an alternation. -/
  | alternation (start : Nat) (branches : List Ast)

/-! ## Flags -/

/-- The flag of a letter. -/
def flag? (c : Char) : Option Flag :=
  if c = 'i' then some .ignoreCase else if c = 'm' then some .multiLine
  else if c = 's' then some .dotAll else if c = 'U' then some .swapGreed
  else if c = 'u' then some .unicode else if c = 'R' then some .crlf
  else if c = 'x' then some .ignoreBlanks else none

/-- Reads flags up to a colon or a closing parenthesis; `limit` bounds how many.  `seen` are
    those so far with their positions, and where the hyphen is if there is one. -/
def flagsFrom : (limit : Nat) → List (Flag × Nat) → Option Nat → Bool → FlagList →
    Parse FlagList
  | 0, _, _, _, items => return items
  | limit + 1, seen, hyphen, dangling, items => do
    let p ← position
    match ← current with
    | none => fail p p .flagUnexpectedEnd
    | some c =>
      if c = ':' ∨ c = ')' then
        if dangling then
          let h := hyphen.getD p
          fail h (h + 1) .flagDanglingNegation
        return items
      else if c = '-' then
        if let some h := hyphen then
          throw { span := ⟨p, p + 1⟩, fault := .flagRepeatedNegation, other := some ⟨h, h + 1⟩ }
        unless ← bump do
          let e ← position
          fail e e .flagUnexpectedEnd
        flagsFrom limit seen (some p) true items
      else
        match flag? c with
        | none => fail p (p + 1) .flagUnrecognized
        | some flag =>
          if let some (_, q) := seen.find? fun (f, _) => f = flag then
            throw { span := ⟨p, p + 1⟩, fault := .flagDuplicate, other := some ⟨q, q + 1⟩ }
          unless ← bump do
            let e ← position
            fail e e .flagUnexpectedEnd
          flagsFrom limit (seen ++ [(flag, p)]) hyphen false (items ++ [(flag, hyphen.isNone)])

/-- What a list of flags says of ignoring blanks. -/
def ignoreBlanks? (items : FlagList) : Option Bool :=
  items.findSome? fun (flag, on) => if flag = .ignoreBlanks then some on else none

/-! ## Groups -/

/-- Whether a character may stand in the name of a group. -/
def isNameChar (first : Bool) (c : Char) : Bool :=
  if c.toNat < 0x80 then
    c = '_' || c.isAlpha || (!first && (c = '.' || c = '[' || c = ']' || c.isDigit))
  else
    (Unicode.property "alpha").contains c ||
      (!first && (Unicode.categories "nd nl no").contains c)

/-- Reads the name of a group up to its closing angle; `limit` bounds its length. -/
def nameFrom : (limit : Nat) → (first : Bool) → Parse Text
  | 0, _ => return []
  | limit + 1, first => do
    match ← current with
    | none => return []
    | some c =>
      if c = '>' then return []
      let p ← position
      unless isNameChar first c do fail p (p + 1) .groupNameInvalid
      if ← bump then return c :: (← nameFrom limit false) else return [c]

/-- Reads the name of a group, which no other group has. -/
def parseName : Parse Unit := do
  let start ← position
  if ← atEnd then fail start start .groupNameUnexpectedEnd
  let name ← nameFrom (← get).total true
  let stop ← position
  if ← atEnd then fail stop stop .groupNameUnexpectedEnd
  let _ ← bump
  if name.isEmpty then fail start start .groupNameEmpty
  let span : Span := ⟨start, stop⟩
  match (← get).names.lookup name with
  | some other => throw { span, fault := .groupNameDuplicate, other := some other }
  | none => modify fun c => { c with names := c.names ++ [(name, span)] }

/-- What an opening parenthesis opens: flags for what follows, or a group. -/
inductive Opened where
  | flags (span : Span) (items : FlagList)
  | group (start : Nat) (items : FlagList)

/-- Reads what follows an opening parenthesis. -/
def parseOpening : Parse Opened := do
  let start ← position
  let _ ← bump
  bumpSpace
  for s in ["?=", "?!", "?<=", "?<!"] do
    if ← bumpIf s then fail start (← position) .unsupportedLookAround
  let inner ← position
  let named ← if ← bumpIf "?P<" then pure true else bumpIf "?<"
  if named then
    parseName
    return .group start []
  else if ← bumpIf "?" then
    if ← atEnd then fail start (start + 1) .groupUnclosed
    let mark ← position
    let items ← flagsFrom (← get).total [] none false []
    let stop ← position
    let closing ← at? ')'
    let _ ← bump
    if closing then
      if mark = stop then fail inner inner .repetitionMissing
      return .flags ⟨start, ← position⟩ items
    else return .group start items
  else return .group start []

/-- What the parts end at `stop`: the last branch of an open alternation, or a pattern of their
    own. -/
def Parts.endBranch (parts : Parts) (stop : Nat) (stack : List Frame) : Ast × List Frame :=
  match stack with
  | .alternation start branches :: rest =>
    (Ast.alternation ⟨start, stop⟩ (branches ++ [parts.toAst stop]), rest)
  | rest => (parts.toAst stop, rest)

/-- Closes the group opened last. -/
def closeGroup (parts : Parts) (stack : List Frame) : Parse (Parts × List Frame) := do
  let p ← position
  let (inner, rest) := parts.endBranch p stack
  match rest with
  | .group before start flags ignoreBlanks :: below =>
    modify fun c => { c with ignoreBlanks := ignoreBlanks }
    let _ ← bump
    return (before.push (.group ⟨start, ← position⟩ flags inner), below)
  | _ => fail p (p + 1) .groupUnopened

/-- Ends the branch of an alternation. -/
def closeBranch (parts : Parts) (stack : List Frame) : Parse (List Frame) := do
  let p ← position
  match stack with
  | .alternation start branches :: rest =>
    return .alternation start (branches ++ [parts.toAst p]) :: rest
  | stack => return .alternation parts.start [parts.toAst p] :: stack

/-- The whole pattern, at its end. -/
def closeAll (parts : Parts) (stack : List Frame) : Parse Ast := do
  let p ← position
  let (ast, rest) := parts.endBranch p stack
  match rest with
  | .group _ start _ _ :: _ => fail start (start + 1) .groupUnclosed
  | _ => return ast

/-! ## Repetitions -/

/-- The part that a repetition repeats, and the parts before it. -/
def repeated (parts : Parts) : Parse (Ast × Parts) := do
  let p ← position
  match parts.parts.getLast? with
  | none => fail p p .repetitionMissing
  | some (.empty _) => fail p p .repetitionMissing
  | some (.flags _ _) => fail p p .repetitionMissing
  | some part => return (part, { parts with parts := parts.parts.dropLast })

/-- Reads a repetition of one character; a question mark after it changes nothing here. -/
def parseRepetition (parts : Parts) (min : Nat) (max : Option Nat) : Parse Parts := do
  let (part, before) ← repeated parts
  if (← bump) && (← at? '?') then
    let _ ← bump
  return before.push (.repetition ⟨part.span.start, ← position⟩ min max part)

/-- Reads a number, blanks around it skipped: the number, none if it is too large, or none at all
    if there are no digits. -/
def parseDecimal : Parse (Span × Option (Option Nat)) := do
  skipAnyBlanks
  let start ← position
  let digits ← takeChars Char.isDigit (← get).total
  let span : Span := ⟨start, ← position⟩
  skipAnyBlanks
  if digits.isEmpty then return (span, none)
  let n := digits.foldl (fun n c => n * 10 + (c.toNat - '0'.toNat)) 0
  return (span, some (if n < Nat.pow 2 32 then some n else none))

/-- The number that was read, or the fault that there is none. -/
def demandCount (read : Span × Option (Option Nat)) : Parse Nat :=
  match read with
  | (span, none) => fail span.start span.stop .repetitionCountEmpty
  | (span, some none) => fail span.start span.stop .decimalInvalid
  | (_, some (some n)) => return n

/-- Reads a repetition in braces. -/
def parseCounted (parts : Parts) : Parse Parts := do
  let (part, before) ← repeated parts
  let start ← position
  unless ← bumpAndSpace do fail start (← position) .repetitionCountUnclosed
  let low ← parseDecimal
  if ← atEnd then fail start (← position) .repetitionCountUnclosed
  let (min, max) ←
    if ← at? ',' then do
      unless ← bumpAndSpace do fail start (← position) .repetitionCountUnclosed
      if ← at? '}' then
        pure (← demandCount low, none)
      else
        let min ← demandCount low
        let max ← demandCount (← parseDecimal)
        pure (min, some max)
    else do
      let n ← demandCount low
      pure (n, some n)
  unless ← at? '}' do fail start (← position) .repetitionCountUnclosed
  if (← bumpAndSpace) && (← at? '?') then
    let _ ← bump
  let stop ← position
  if max.any (· < min) then fail start stop .repetitionCountInvalid
  return before.push (.repetition ⟨part.span.start, stop⟩ min max part)

/-! ## Whole patterns -/

/-- Reads what is left of a pattern; `limit` bounds the steps. -/
def patternFrom : (limit : Nat) → Parts → List Frame → Parse Ast
  | 0, parts, stack => closeAll parts stack
  | limit + 1, parts, stack => do
    bumpSpace
    match ← current with
    | none => closeAll parts stack
    | some c =>
      if c = '(' then
        match ← parseOpening with
        | .flags span items =>
          if let some on := ignoreBlanks? items then
            modify fun cursor => { cursor with ignoreBlanks := on }
          patternFrom limit (parts.push (.flags span items)) stack
        | .group start items =>
          let old := (← get).ignoreBlanks
          modify fun cursor => { cursor with ignoreBlanks := (ignoreBlanks? items).getD old }
          patternFrom limit { start := ← position } (.group parts start items old :: stack)
      else if c = ')' then
        let (parts, stack) ← closeGroup parts stack
        patternFrom limit parts stack
      else if c = '|' then
        let stack ← closeBranch parts stack
        let _ ← bump
        patternFrom limit { start := ← position } stack
      else if c = '[' then patternFrom limit (parts.push (← parseBrackets)) stack
      else if c = '?' then patternFrom limit (← parseRepetition parts 0 (some 1)) stack
      else if c = '*' then patternFrom limit (← parseRepetition parts 0 none) stack
      else if c = '+' then patternFrom limit (← parseRepetition parts 1 none) stack
      else if c = '{' then patternFrom limit (← parseCounted parts) stack
      else patternFrom limit (parts.push (← parsePrimitive).toAst) stack

/-- How deep patterns may nest. -/
def nestLimit : Nat := 250

/-- Reads a pattern. -/
def Ast.parse (pattern : Text) : Except Located Ast := do
  let total := pattern.length
  let (ast, _) ← (patternFrom (total + 1) { start := 0 } []).run { total, rest := pattern }
  match ast.tooDeep? nestLimit 0 with
  | some span => throw { span, fault := .nestLimitExceeded nestLimit }
  | none => return ast

end LineShell.Regex
