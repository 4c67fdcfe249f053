import LineShell.Toml.Value

/-!
# Reading a document

A document is a list of expressions: entries, headers, comments and empty lines.  A header closes
the table before it and opens one of its own; entries go into the table that is open.

* A header may name a table once.  One that was only implied by the path of another header may
  still be named.
* A double header adds a table to the tables of its name.
-/

namespace LineShell.Toml

open Scan

/-- A document in the making. -/
structure OpenDocument where
  /-- The tables that are closed. -/
  root : Table Datum := {}
  /-- The table that is open. -/
  current : Table Datum := {}
  /-- Where it goes. -/
  path : List Key := []
  /-- It is one of several. -/
  repeated : Bool := false

namespace OpenDocument

/-- A name that is there already, as a header has it. -/
def taken (path : List Key) : Cause :=
  .duplicateKey ((path.getLast?.map Key.raw).getD []) (some (namesOf path.dropLast))

/-- Closes the open table. -/
def close (d : OpenDocument) : Except Cause (Table Datum) :=
  match d.path.getLast? with
  | none => .ok d.current
  | some k => do
    let ((), root) ← Table.update false false (fun parent =>
      match parent.get? k.name, d.repeated with
      | none, true => .ok ((), parent.add k (.tables [d.current]))
      | some (.tables elements), true =>
        .ok ((), parent.set k.name (.tables (elements ++ [d.current])))
      | none, false => .ok ((), parent.add k (.table d.current))
      | some (.table t), false =>
        if t.implicit then .ok ((), parent.set k.name (.table d.current))
        else .error (taken d.path)
      | _, _ => .error (taken d.path)) [] d.path.dropLast d.root
    return root

/-- Opens the table of a header. -/
def openTable (d : OpenDocument) (path : List Key) (span : Span) : Except Cause OpenDocument := do
  let root ← d.close
  let name := (path.getLast?.map Key.name).getD []
  let (current, root) ← Table.update false false (fun parent =>
    match parent.get? name with
    | none => .ok ({}, parent)
    | some (.table t) =>
      if t.implicit && !t.dotted then .ok (t, parent.erase name) else .error (taken path)
    | some _ => .error (taken path)) [] path.dropLast root
  return ⟨root, { current with implicit := false, dotted := false, span := some span }, path, false⟩

/-- Opens one more table of a double header. -/
def openElement (d : OpenDocument) (path : List Key) (span : Span) : Except Cause OpenDocument := do
  let root ← d.close
  let name := (path.getLast?.map Key.name).getD []
  let ((), root) ← Table.update false false (fun parent =>
    match parent.get? name with
    | none => .ok ((), parent)
    | some (.tables _) => .ok ((), parent)
    | some _ => .error (taken path)) [] path.dropLast root
  return ⟨root, { span := some span }, path, true⟩

/-- Adds an entry to the open table, which reaches to its end from then on. -/
def addEntry (d : OpenDocument) (keys : List Key) (datum : Datum) : Except Cause OpenDocument := do
  let span :=
    match d.current.span, datum.span? with
    | some old, some new => some ⟨old.startLeft, new.stopLeft⟩
    | old, _ => old
  let current ← { d.current with span := span }.insert false (some (namesOf d.path)) keys datum
  return { d with current := current }

end OpenDocument

/-- What may follow on the line of an entry or a header. -/
def lineRest : Scan Unit := (trailing.cut.expecting "newline").expecting "`#`"

/-- A header. -/
def header (d : OpenDocument) : Scan OpenDocument :=
  let bracketed (opening closing : String) : Scan (List Key × Span) := do
    let (keys, span) ← spanned (do
      exactly opening
      let keys ← key.cut
      (((exactly closing).cut).expecting "`.`").expecting ("`" ++ closing ++ "`")
      return keys)
    lineRest
    return (keys, span)
  label "table header" fun s =>
    match s with
    | [_] => .miss {} s
    | '[' :: '[' :: _ => (bracketed "[[" "]]").check (fun (keys, span) => d.openElement keys span) s
    | _ => (bracketed "[" "]").check (fun (keys, span) => d.openTable keys span) s

/-- An entry. -/
def entry (d : OpenDocument) : Scan OpenDocument :=
  let pair : Scan (List Key × Datum) := do
    let keys ← key
    equals.cut
    let _ ← blanks
    let datum ← (value (depthLimit - 1)).cut
    lineRest
    return (keys, datum)
  pair.check fun (keys, datum) => d.addEntry keys datum

/-- One expression with the blanks after it. -/
def expression (d : OpenDocument) : Scan OpenDocument := do
  let d' ←
    match ← next? with
    | none => fail
    | some '#' => (do comment; lineEnd; return d : Scan OpenDocument).cut
    | some '[' => (header d).cut
    | some '\n' => (do newline; return d)
    | some '\r' => (do newline; return d)
    | some _ => (entry d).cut
  let _ ← blanks
  return d'

/-- At most `bound` expressions. -/
def expressions : (bound : Nat) → OpenDocument → Scan OpenDocument
  | 0, d => pure d
  | bound + 1, d => fun s =>
    match expression d s with
    | .ok d' rest => expressions bound d' rest
    | .miss _ _ => .ok d s
    | .stop why rest => .stop why rest

/-- A whole document, with a byte order mark in front or not. -/
def document : Scan (Table Datum) := fun s =>
  (do
    let _ ← optional (one (· = '\uFEFF'))
    let _ ← blanks
    let d ← expressions s.length {}
    atEnd
    (pure d : Scan OpenDocument).check OpenDocument.close : Scan (Table Datum)) s

/-- Reads a document. -/
def parse (source : Text) : Except Error (Table Datum) :=
  let refuse (why : Problem) (rest : Text) : Except Error (Table Datum) :=
    .error ⟨why.message, some ⟨rest.length, rest.length - 1⟩⟩
  match document source with
  | .ok t _ => .ok t
  | .miss why rest => refuse why rest
  | .stop why rest => refuse why rest

end LineShell.Toml
