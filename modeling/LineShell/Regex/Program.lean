import LineShell.Regex.Parser
import LineShell.Unicode.CaseMapping

/-!
# What a regular expression means

`Program` is a pattern with its flags worked out: sets of characters, assertions about a
position, and the ways to put them together.  `Ast.meaning` works the flags out, in the order
in which the pattern is written; a flag holds to the end of its group.

Without the flag `u` a class means bytes, so one with anything beyond ASCII is refused: a match
is always text.

`Program.size` estimates the memory that a program takes, which is limited.
-/

namespace LineShell.Regex

/-- What an assertion about words asks of the characters on either side. -/
inductive WordTest where
  /-- One of them belongs to a word and the other does not. -/
  | boundary
  /-- Both do or both do not. -/
  | notBoundary
  /-- Only the one after. -/
  | start
  /-- Only the one before. -/
  | stop
  /-- Not the one before. -/
  | startHalf
  /-- Not the one after. -/
  | stopHalf
deriving DecidableEq, Repr

/-- Assertions about a position in a text. -/
inductive Look where
  | textStart
  | textEnd
  | lineStart
  | lineEnd
  /-- A line starts after a newline, or after a carriage return without one. -/
  | crlfStart
  /-- A line ends before a carriage return, or before a newline without one. -/
  | crlfEnd
  /-- An assertion about words, which are made of these characters. -/
  | word (test : WordTest) (chars : CharSet)
deriving DecidableEq, Repr

/-- A regular expression with its flags worked out. -/
inductive Program where
  | empty
  | set (chars : CharSet)
  | look (assertion : Look)
  | concat (first second : Program)
  | alternate (first second : Program)
  | times (min : Nat) (max : Option Nat) (inner : Program)
deriving DecidableEq, Repr

/-! ## Flags -/

/-- The flags in force. -/
structure Flags where
  ignoreCase : Bool := false
  multiLine : Bool := false
  dotAll : Bool := false
  unicode : Bool := true
  crlf : Bool := false
deriving DecidableEq, Repr

/-- Sets or clears a flag.  Which repetition is preferred changes no answer, and blanks have been
    skipped already. -/
def Flags.apply (f : Flags) (item : Flag × Bool) : Flags :=
  match item with
  | (.ignoreCase, on) => { f with ignoreCase := on }
  | (.multiLine, on) => { f with multiLine := on }
  | (.dotAll, on) => { f with dotAll := on }
  | (.unicode, on) => { f with unicode := on }
  | (.crlf, on) => { f with crlf := on }
  | (.swapGreed, _) => f
  | (.ignoreBlanks, _) => f

/-! ## Sets -/

/-- The set of a class written as `[:name:]`. -/
def asciiSet (name : Text) : CharSet :=
  let digit := [(0x30, 0x39)]
  let upper := [(0x41, 0x5A)]
  let lower := [(0x61, 0x7A)]
  .ofRanges <|
    if name = "alnum".toList then digit ++ upper ++ lower
    else if name = "alpha".toList then upper ++ lower
    else if name = "ascii".toList then [(0, 0x7F)]
    else if name = "blank".toList then [(9, 9), (0x20, 0x20)]
    else if name = "cntrl".toList then [(0, 0x1F), (0x7F, 0x7F)]
    else if name = "digit".toList then digit
    else if name = "graph".toList then [(0x21, 0x7E)]
    else if name = "lower".toList then lower
    else if name = "print".toList then [(0x20, 0x7E)]
    else if name = "punct".toList then
      [(0x21, 0x2F), (0x3A, 0x40), (0x5B, 0x60), (0x7B, 0x7E)]
    else if name = "space".toList then [(9, 13), (0x20, 0x20)]
    else if name = "upper".toList then upper
    else if name = "word".toList then digit ++ upper ++ [(0x5F, 0x5F)] ++ lower
    else digit ++ [(0x41, 0x46), (0x61, 0x66)]

/-- The characters of words. -/
def wordSet (unicode : Bool) : CharSet :=
  if unicode then
    ((Unicode.property "alpha").union (Unicode.categories "m nd pc")).union
      (Unicode.property "joinc")
  else asciiSet "word".toList

/-- The set of a class written with a letter. -/
def shortSet (unicode : Bool) : ShortClass → CharSet
  | .digit => if unicode then Unicode.category "nd".toList else asciiSet "digit".toList
  | .space => if unicode then Unicode.property "space" else asciiSet "space".toList
  | .word => wordSet unicode

/-- The set with the other case of its ASCII letters. -/
def closeAsciiCase (s : CharSet) : CharSet :=
  .ofRanges (s.ranges ++ (List.range 26).flatMap fun i =>
    if s.hasCode (0x41 + i) || s.hasCode (0x61 + i) then
      [(0x41 + i, 0x41 + i), (0x61 + i, 0x61 + i)]
    else [])

/-- The set with the other case of its characters, if case is ignored. -/
def Flags.close (f : Flags) (s : CharSet) : CharSet :=
  if f.ignoreCase then (if f.unicode then Unicode.closeCase s else closeAsciiCase s) else s

/-- The set as it is meant, with case and negation worked out; without the flag `u` it has to
    stay within ASCII. -/
def Flags.settle (f : Flags) (span : Span) (negated : Bool) (s : CharSet) :
    Except Located CharSet :=
  let closed := f.close s
  let settled := if negated then closed.complement else closed
  if f.unicode || settled.isAscii then .ok settled
  else .error { span, fault := .invalidUtf8 }

/-- The set of a class by property. -/
def Flags.propertySet (f : Flags) (cls : PropertyClass) : Except Located CharSet :=
  if !f.unicode then .error { span := cls.span, fault := .unicodeNotAllowed }
  else
    let found :=
      match cls.value with
      | none => Unicode.resolve? cls.name
      | some value => Unicode.resolveValue? cls.name value
    match found with
    | .ok s => f.settle cls.span cls.negated s
    | .error .unknownProperty => .error { span := cls.span, fault := .unknownProperty }
    | .error .unknownValue => .error { span := cls.span, fault := .unknownPropertyValue }

/-- The set of a class written with a letter; these are closed under case already. -/
def Flags.shortClass (f : Flags) (span : Span) (kind : ShortClass) (negated : Bool) :
    Except Located CharSet :=
  let s := shortSet f.unicode kind
  let settled := if negated then s.complement else s
  if f.unicode || settled.isAscii then .ok settled
  else .error { span, fault := .invalidUtf8 }

/-- The code of a character in a set. -/
def Flags.code (f : Flags) (lit : Literal) : Except Located Nat :=
  if f.unicode || lit.char.toNat < 0x80 then .ok lit.char.toNat
  else .error { span := lit.span, fault := if lit.byte then .invalidUtf8 else .unicodeNotAllowed }

mutual

/-- The set of an item in brackets. -/
def SetAst.meaning (f : Flags) : SetAst → Except Located CharSet
  | .empty _ => .ok {}
  | .literal lit => do
    let n ← f.code lit
    return .ofRanges [(n, n)]
  | .range _ low high => do
    let lo ← f.code low
    let hi ← f.code high
    return .ofRanges [(lo, hi)]
  | .ascii span name negated => f.settle span negated (asciiSet name)
  | .short span kind negated => f.shortClass span kind negated
  | .property cls => f.propertySet cls
  | .bracketed span negated inner => do
    let s ← inner.meaning f
    f.settle span negated s
  | .union _ items => SetAst.unionMeaning f items
  | .operation _ op left right => do
    let l ← left.meaning f
    let r ← right.meaning f
    let l := f.close l
    let r := f.close r
    match op with
    | .intersection => return l.inter r
    | .difference => return l.diff r
    | .symmetricDifference => return l.symmDiff r

/-- The union of the sets of some items. -/
def SetAst.unionMeaning (f : Flags) : List SetAst → Except Located CharSet
  | [] => .ok {}
  | item :: rest => do
    let s ← item.meaning f
    let t ← SetAst.unionMeaning f rest
    return s.union t

end

/-! ## Programs -/

/-- The program of a character. -/
def Flags.literal (f : Flags) (lit : Literal) : Except Located Program :=
  if !f.unicode && lit.byte && lit.char.toNat ≥ 0x80 then
    .error { span := lit.span, fault := .invalidUtf8 }
  else .ok (.set (f.close (.single lit.char)))

/-- The program of a dot. -/
def Flags.dot (f : Flags) (span : Span) : Except Located Program :=
  if !f.unicode then .error { span, fault := .invalidUtf8 }
  else if f.dotAll then .ok (.set .all)
  else if f.crlf then .ok (.set (CharSet.ofRanges [(10, 10), (13, 13)]).complement)
  else .ok (.set (CharSet.single '\n').complement)

/-- The program of an assertion. -/
def Flags.look (f : Flags) : Assertion → Look
  | .lineStart =>
    if f.multiLine then (if f.crlf then .crlfStart else .lineStart) else .textStart
  | .lineEnd => if f.multiLine then (if f.crlf then .crlfEnd else .lineEnd) else .textEnd
  | .textStart => .textStart
  | .textEnd => .textEnd
  | .wordBoundary => .word .boundary (wordSet f.unicode)
  | .notWordBoundary => .word .notBoundary (wordSet f.unicode)
  | .wordStart => .word .start (wordSet f.unicode)
  | .wordEnd => .word .stop (wordSet f.unicode)
  | .wordStartHalf => .word .startHalf (wordSet f.unicode)
  | .wordEndHalf => .word .stopHalf (wordSet f.unicode)

mutual

/-- The program of a pattern under some flags, and the flags in force after it. -/
def Ast.meaning (f : Flags) : Ast → Except Located (Program × Flags)
  | .empty _ => .ok (.empty, f)
  | .flags _ items => .ok (.empty, items.foldl Flags.apply f)
  | .literal lit => do return (← f.literal lit, f)
  | .dot span => do return (← f.dot span, f)
  | .assertion _ kind => .ok (.look (f.look kind), f)
  | .short span kind negated => do return (.set (← f.shortClass span kind negated), f)
  | .property cls => do return (.set (← f.propertySet cls), f)
  | .set span negated inner => do
    let s ← inner.meaning f
    return (.set (← f.settle span negated s), f)
  | .repetition _ min max inner => do
    let (p, f') ← inner.meaning f
    return (.times min max p, f')
  | .group _ items inner => do
    let (p, _) ← inner.meaning (items.foldl Flags.apply f)
    return (p, f)
  | .alternation _ branches => Ast.branchMeaning f branches
  | .concat _ parts => Ast.partMeaning f parts

/-- The program of one of several branches; a flag set in one holds in those after it. -/
def Ast.branchMeaning (f : Flags) : List Ast → Except Located (Program × Flags)
  | [] => .ok (.empty, f)
  | [branch] => branch.meaning f
  | branch :: rest => do
    let (p, f') ← branch.meaning f
    let (q, f'') ← Ast.branchMeaning f' rest
    return (.alternate p q, f'')

/-- The program of parts one after another. -/
def Ast.partMeaning (f : Flags) : List Ast → Except Located (Program × Flags)
  | [] => .ok (.empty, f)
  | [part] => part.meaning f
  | part :: rest => do
    let (p, f') ← part.meaning f
    let (q, f'') ← Ast.partMeaning f' rest
    return (.concat p q, f'')

end

/-! ## Size -/

/-- The memory that a program may take, in bytes. -/
def sizeLimit : Nat := 10485760

/-- About how many bytes a program takes: a state for every byte of a character and every choice,
    and a share of a state for every range of a larger set. -/
def Program.size : Program → Nat
  | .empty => 32
  | .set s =>
    match s.ranges with
    | [] => 32
    | [(lo, hi)] => if lo = hi then 32 * (Char.ofNat lo).utf8Size else 40
    | ranges => 32 + (if s.isAscii then 8 else 23) * ranges.length
  | .look _ => 32
  | .concat p q => p.size + q.size
  | .alternate p q => 68 + p.size + q.size
  | .times min max p =>
    match max with
    | some max => 32 + min * p.size + (max - min) * (p.size + 40)
    | none => 72 + (if min = 0 then 1 else min) * p.size

/-- Reads a pattern. -/
def Program.parse (pattern : Text) : Except Error Program :=
  match Ast.parse pattern with
  | .error e => .error (.malformed pattern e)
  | .ok ast =>
    match ast.meaning {} with
    | .error e => .error (.malformed pattern e)
    | .ok (p, _) => if p.size > sizeLimit then .error .tooBig else .ok p

end LineShell.Regex
