import LineShell.Decimal.Shortest

/-!
# TOML documents

A document is a table of data, each with the stretch of the source that it comes from.

**Positions.**  A place in the source is given by how many characters are left from it on, so that
it can be read off the rest of the input alone.

**Tables.**  A table comes from a header, from braces, or from the dots of a key.  What may still
be added to it depends on that, so a table keeps it: one that no header has named yet is
`implicit`, one that was made by a dotted key is `dotted`.
-/

namespace LineShell.Toml

/-- A stretch of the source: how many characters are left from its start and from its end on. -/
structure Span where
  startLeft : Nat
  stopLeft : Nat
deriving DecidableEq, Repr

/-- A simple key. -/
structure Key where
  name : Text
  /-- The key as written. -/
  raw : Text
  span : Span
deriving DecidableEq, Repr

/-- A floating-point number. -/
inductive Real where
  | finite (negative : Bool) (value : Binary)
  | infinite (negative : Bool)
  | notANumber
deriving DecidableEq, Repr

/-- A value without parts. -/
inductive Scalar where
  | string (s : Text)
  | integer (n : Int)
  | float (x : Real)
  | boolean (b : Bool)
  | datetime
deriving DecidableEq, Repr

/-- A table of data. -/
structure Table (ν : Type) where
  entries : List (Key × ν) := []
  /-- No header has named the table yet. -/
  implicit : Bool := false
  /-- The table was made by a dotted key. -/
  dotted : Bool := false
  span : Option Span := none
deriving Repr

/-- A datum of a document. -/
inductive Datum where
  | scalar (value : Scalar) (span : Span)
  | array (elements : List Datum) (span : Span)
  /-- A table in braces. -/
  | inline (table : Table Datum)
  /-- A table of a header or a dotted key. -/
  | table (table : Table Datum)
  /-- The tables of a double header. -/
  | tables (elements : List (Table Datum))
deriving Repr

namespace Table

/-- The datum of a name. -/
def get? {ν : Type} (t : Table ν) (name : Text) : Option ν :=
  (t.entries.find? fun (k, _) => k.name = name).map Prod.snd

/-- Adds an entry after the others. -/
def add {ν : Type} (t : Table ν) (key : Key) (datum : ν) : Table ν :=
  { t with entries := t.entries ++ [(key, datum)] }

/-- Replaces the datum of a name where it stands. -/
def set {ν : Type} (t : Table ν) (name : Text) (datum : ν) : Table ν :=
  { t with entries := t.entries.map fun (k, n) => if k.name = name then (k, datum) else (k, n) }

/-- Removes a name. -/
def erase {ν : Type} (t : Table ν) (name : Text) : Table ν :=
  { t with entries := t.entries.filter fun (k, _) => k.name ≠ name }

end Table

namespace Datum

/-- The stretch of the source that a datum comes from, if it is one. -/
def span? : Datum → Option Span
  | scalar _ span => some span
  | array _ span => some span
  | inline t => t.span
  | table t => t.span
  | tables elements =>
    match elements.head?.bind Table.span, elements.getLast?.bind Table.span with
    | some first, some last => some ⟨first.startLeft, last.stopLeft⟩
    | _, _ => none

/-- The kind of a value, as it is named in messages. -/
def kindName : Datum → Text
  | scalar (.string _) _ => "string".toList
  | scalar (.integer _) _ => "integer".toList
  | scalar (.float _) _ => "float".toList
  | scalar (.boolean _) _ => "boolean".toList
  | scalar .datetime _ => "datetime".toList
  | array _ _ => "array".toList
  | inline _ => "inline table".toList
  | table _ => "table".toList
  | tables _ => "array of tables".toList

end Datum

end LineShell.Toml
