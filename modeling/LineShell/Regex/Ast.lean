import LineShell.Text.Basic

/-!
# Regular expressions as written

`Ast` is a pattern as it was read, with the stretch of text (`Span`) of every part that a message
may have to point at.  Nothing is interpreted yet: what a class or an assertion means depends on
the flags in force, which are part of the tree.
-/

namespace LineShell.Regex

/-- A stretch of a pattern, from one position up to another, counted in characters. -/
structure Span where
  start : Nat
  stop : Nat
deriving DecidableEq, Repr

/-- The flags of a group. -/
inductive Flag where
  /-- `i` -/
  | ignoreCase
  /-- `m` -/
  | multiLine
  /-- `s` -/
  | dotAll
  /-- `U` -/
  | swapGreed
  /-- `u` -/
  | unicode
  /-- `R` -/
  | crlf
  /-- `x` -/
  | ignoreBlanks
deriving DecidableEq, Repr

/-- Flags as written: those before the hyphen are set, those after it are cleared. -/
abbrev FlagList := List (Flag × Bool)

/-- The kinds of assertions. -/
inductive Assertion where
  /-- `^` -/
  | lineStart
  /-- `$` -/
  | lineEnd
  /-- `\A` -/
  | textStart
  /-- `\z` -/
  | textEnd
  /-- `\b` -/
  | wordBoundary
  /-- `\B` -/
  | notWordBoundary
  /-- `\b{start}` -/
  | wordStart
  /-- `\b{end}` -/
  | wordEnd
  /-- `\b{start-half}` -/
  | wordStartHalf
  /-- `\b{end-half}` -/
  | wordEndHalf
deriving DecidableEq, Repr

/-- The classes written with a backslash and a letter. -/
inductive ShortClass where
  | digit
  | space
  | word
deriving DecidableEq, Repr

/-- A character as written. -/
structure Literal where
  span : Span
  char : Char
  /-- Written as a backslash, an `x` and two digits, which may stand for a byte. -/
  byte : Bool := false
deriving DecidableEq, Repr

/-- A class named by a Unicode property. -/
structure PropertyClass where
  span : Span
  negated : Bool
  name : Text
  value : Option Text
deriving DecidableEq, Repr

/-- The operations between sets in brackets. -/
inductive SetOperation where
  | intersection
  | difference
  | symmetricDifference
deriving DecidableEq, Repr

/-- What stands in brackets. -/
inductive SetAst where
  | empty (span : Span)
  | literal (lit : Literal)
  | range (span : Span) (low high : Literal)
  /-- `[:name:]` -/
  | ascii (span : Span) (name : Text) (negated : Bool)
  | short (span : Span) (kind : ShortClass) (negated : Bool)
  | property (cls : PropertyClass)
  | bracketed (span : Span) (negated : Bool) (inner : SetAst)
  | union (span : Span) (items : List SetAst)
  | operation (span : Span) (op : SetOperation) (left right : SetAst)
deriving Repr

/-- Where an item in brackets stands. -/
def SetAst.span : SetAst → Span
  | .empty span => span
  | .literal lit => lit.span
  | .range span _ _ => span
  | .ascii span _ _ => span
  | .short span _ _ => span
  | .property cls => cls.span
  | .bracketed span _ _ => span
  | .union span _ => span
  | .operation span _ _ _ => span

/-- A pattern as written. -/
inductive Ast where
  | empty (span : Span)
  /-- Flags for the rest of the group. -/
  | flags (span : Span) (items : FlagList)
  | literal (lit : Literal)
  | dot (span : Span)
  | assertion (span : Span) (kind : Assertion)
  | short (span : Span) (kind : ShortClass) (negated : Bool)
  | property (cls : PropertyClass)
  | set (span : Span) (negated : Bool) (inner : SetAst)
  | repetition (span : Span) (min : Nat) (max : Option Nat) (inner : Ast)
  | group (span : Span) (flags : FlagList) (inner : Ast)
  | alternation (span : Span) (branches : List Ast)
  | concat (span : Span) (parts : List Ast)
deriving Repr

/-- Where a part of a pattern stands. -/
def Ast.span : Ast → Span
  | .empty span => span
  | .flags span _ => span
  | .literal lit => lit.span
  | .dot span => span
  | .assertion span _ => span
  | .short span _ _ => span
  | .property cls => cls.span
  | .set span _ _ => span
  | .repetition span _ _ _ => span
  | .group span _ _ => span
  | .alternation span _ => span
  | .concat span _ => span

/-! ## Nesting -/

mutual

/-- The first item in brackets that lies deeper than `limit`, itself at depth `depth`. -/
def SetAst.tooDeep? (limit depth : Nat) : SetAst → Option Span
  | .bracketed span _ inner =>
    if depth ≥ limit then some span else inner.tooDeep? limit (depth + 1)
  | .union span items =>
    if depth ≥ limit then some span else SetAst.anyTooDeep? limit (depth + 1) items
  | .operation span _ left right =>
    if depth ≥ limit then some span
    else (left.tooDeep? limit (depth + 1)).or (right.tooDeep? limit (depth + 1))
  | _ => none

/-- The first of some items that lies too deep. -/
def SetAst.anyTooDeep? (limit depth : Nat) : List SetAst → Option Span
  | [] => none
  | item :: rest => (item.tooDeep? limit depth).or (SetAst.anyTooDeep? limit depth rest)

end

mutual

/-- The first part that lies deeper than `limit`, itself at depth `depth`. -/
def Ast.tooDeep? (limit depth : Nat) : Ast → Option Span
  | .set span _ inner =>
    if depth ≥ limit then some span else inner.tooDeep? limit (depth + 1)
  | .repetition span _ _ inner =>
    if depth ≥ limit then some span else inner.tooDeep? limit (depth + 1)
  | .group span _ inner =>
    if depth ≥ limit then some span else inner.tooDeep? limit (depth + 1)
  | .alternation span branches =>
    if depth ≥ limit then some span else Ast.anyTooDeep? limit (depth + 1) branches
  | .concat span parts =>
    if depth ≥ limit then some span else Ast.anyTooDeep? limit (depth + 1) parts
  | _ => none

/-- The first of some parts that lies too deep. -/
def Ast.anyTooDeep? (limit depth : Nat) : List Ast → Option Span
  | [] => none
  | part :: rest => (part.tooDeep? limit depth).or (Ast.anyTooDeep? limit depth rest)

end

end LineShell.Regex
