import LineShell.Text.Basic

/-!
# Quotes

The three kinds of quotes and what a quoted span holds.  A span may hold spans of the two other
kinds at any depth; its `Quotation` keeps text and inner spans in source order.
-/

namespace LineShell

/-- The kinds of quotes. -/
inductive Quote where
  | single
  | double
  | back
deriving DecidableEq, Repr

namespace Quote

/-- The character that opens and closes a span. -/
def delimiter : Quote → Char
  | single => '\''
  | double => '"'
  | back => '`'

/-- The kind of span that a character opens or closes. -/
def ofChar? (c : Char) : Option Quote :=
  if c = '\'' then some single else if c = '"' then some double
  else if c = '`' then some back else none

/-- The name used in messages. -/
def name : Quote → Text
  | single => "single".toList
  | double => "double".toList
  | back => "back".toList

end Quote

/-- What stands between the delimiters of a quoted span, in source order. -/
inductive Quotation where
  /-- Nothing more. -/
  | done
  /-- A run of text, then the rest. -/
  | text (run : Text) (rest : Quotation)
  /-- An inner span of the given kind, then the rest. -/
  | span (kind : Quote) (inner rest : Quotation)
deriving DecidableEq, Repr, Inhabited

namespace Quotation

/-- Adds one character at the end, to the run of text that stands there if there is one. -/
def pushChar (c : Char) : Quotation → Quotation
  | done => text [c] done
  | text run done => text (run ++ [c]) done
  | text run rest => text run (rest.pushChar c)
  | span kind inner rest => span kind inner (rest.pushChar c)

/-- Adds an inner span at the end. -/
def pushSpan (kind : Quote) (inner : Quotation) : Quotation → Quotation
  | done => span kind inner done
  | text run rest => text run (pushSpan kind inner rest)
  | span k i rest => span k i (pushSpan kind inner rest)

/-- The source text: inner spans stand with their delimiters, the outer ones are left out. -/
def render : Quotation → Text
  | done => []
  | text run rest => run ++ rest.render
  | span kind inner rest =>
    kind.delimiter :: (inner.render ++ kind.delimiter :: rest.render)

/-- The number of backquoted spans at any depth. -/
def backCount : Quotation → Nat
  | done => 0
  | text _ rest => rest.backCount
  | span kind inner rest =>
    (if kind = .back then 1 else 0) + inner.backCount + rest.backCount

end Quotation

end LineShell
