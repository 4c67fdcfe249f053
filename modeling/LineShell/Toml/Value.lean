import LineShell.Toml.Literal

/-!
# Keys and values

**Keys.**  A key is one or more simple keys with dots between them.

**Tables.**  `Table.update` walks down a path of keys, makes the tables that are missing, and
changes the one at the end; `Table.insert` adds a value there.

**Values.**  `value` reads any value; arrays and tables in braces nest at most `depthLimit` deep.
-/

namespace LineShell.Toml

open Scan

/-- Keys have fewer parts and values fewer levels than this. -/
def depthLimit : Nat := 80

/-! ## Keys -/

/-- What a scan reads, with the text that it read. -/
def withRaw {α : Type} (p : Scan α) : Scan (α × Text) := fun s =>
  match p s with
  | .ok a rest => .ok (a, s.take (s.length - rest.length)) rest
  | .miss why rest => .miss why rest
  | .stop why rest => .stop why rest

/-- Whether a character may stand in a key without quotes. -/
def isBareChar (c : Char) : Bool := c.isAlphanum || c = '-' || c = '_'

/-- A simple key. -/
def simpleKey : Scan Key := do
  let name : Scan Text := do
    match ← next? with
    | some '"' => basicString
    | some '\'' => literalString
    | _ => takeWhile1 isBareChar
  let ((name, raw), span) ← spanned (withRaw name)
  return ⟨name, raw, span⟩

/-- A key. -/
def key : Scan (List Key) :=
  let part : Scan Key := do
    let _ ← blanks
    let k ← simpleKey
    let _ ← blanks
    return k
  ((separated part (exactly ".")).label "key").check fun keys =>
    if keys.length < depthLimit then .ok keys else .error .tooDeep

/-- The sign between a key and its value. -/
def equals : Scan Unit := ((exactly "=").expecting "`.`").expecting "`=`"

/-! ## Tables -/

/-- The names of some keys. -/
def namesOf (keys : List Key) : List Text := keys.map Key.name

/-- Changes the table at the end of a path below `t`.  Tables that are missing are made, in braces
    if `inline` says so.  A table that a header has named is closed to dotted keys. -/
def Table.update {α : Type} (inline dotted : Bool)
    (change : Table Datum → Except Cause (α × Table Datum)) (done : List Key) :
    (path : List Key) → (t : Table Datum) → Except Cause (α × Table Datum)
  | [], t => change t
  | k :: rest, t =>
    let below (child : Table Datum) := update inline dotted change (done ++ [k]) rest child
    let guarded (child : Table Datum) (wrap : Table Datum → Datum) : Except Cause (α × Table Datum) :=
      if dotted && !child.implicit then .error (.duplicateKey k.name none)
      else do
        let (a, child) ← below child
        return (a, t.set k.name (wrap child))
    match t.get? k.name with
    | none => do
      let (a, child) ← below { implicit := true, dotted := dotted }
      return (a, t.add k (if inline then .inline child else .table child))
    | some (.table child) => guarded child .table
    | some (.tables elements) => do
      let (a, last) ← below (elements.getLast?.getD {})
      return (a, t.set k.name (.tables (elements.dropLast ++ [last])))
    | some (.inline child) =>
      if inline then guarded child .inline
      else .error (.notTable (namesOf (done ++ [k])) (Datum.inline child).kindName)
    | some datum => .error (.notTable (namesOf (done ++ [k])) datum.kindName)

/-- Adds a value under a key.  `home` is the path of the table for messages. -/
def Table.insert (inline : Bool) (home : Option (List Text)) (keys : List Key) (datum : Datum)
    (t : Table Datum) : Except Cause (Table Datum) :=
  match keys.getLast? with
  | none => .ok t
  | some k => do
    let path := keys.dropLast
    let ((), t) ← Table.update inline true (fun t =>
      if t.dotted == path.isEmpty then .error (.duplicateKey k.name none)
      else if (t.get? k.name).isSome then .error (.duplicateKey k.name home)
      else .ok ((), t.add k datum)) [] path t
    return t

/-! ## Values -/

/-- What a value without parts may start with says which one it is. -/
def scalar : Scan Scalar :=
  let quoted (p : Scan Scalar) : Scan Scalar :=
    ((p.label "string").expecting "`\"`").expecting "`'`"
  let word (text : String) (value : Scalar) : Scan Scalar := do
    exactly text
    return value
  let number : Scan Scalar :=
    orElse (do datetime; return .datetime)
      (orElse (do return .float (← float)) (do return .integer (← integer)))
  do
    match ← next? with
    | none => fail
    | some '"' => return .string (← string)
    | some '\'' => return .string (← string)
    | some '_' => expecting "leading digit" (do return .integer (← integer))
    | some '.' => expecting "leading digit" (do return .float (← float))
    | some 't' => quoted (word "true" (.boolean true)).cut
    | some 'f' => quoted (word "false" (.boolean false)).cut
    | some 'i' => quoted (word "inf" (.float (.infinite false)))
    | some 'n' => quoted (word "nan" (.float .notANumber))
    | some c => if c.isDigit || c = '+' || c = '-' then number else quoted fail

/-- The elements of an array and the bracket after them. -/
def array (element : Scan Datum) : Scan (List Datum) := do
  exactly "["
  let padded : Scan Datum := do
    filler
    let e ← element
    filler
    return e
  let elements ← (separated0 padded (exactly ",")).cut
  if !elements.isEmpty then
    let _ ← optional (exactly ",")
  filler
  ((exactly "]").cut.label "array").expecting "`]`"
  return elements

/-- The entries of a table in braces. -/
def inlineTable (element : Scan Datum) : Scan (Table Datum) := do
  exactly "\x7b"
  let entry : Scan (List Key × Datum) := do
    let k ← key
    equals.cut
    let _ ← blanks
    let e ← element.cut
    let _ ← blanks
    return (k, e)
  let entries : Scan (List (List Key × Datum)) := do
    let es ← separated0 entry (exactly ",")
    let _ ← blanks
    return es
  let table ← (entries.check fun es =>
    es.foldlM (fun t (keys, datum) => t.insert true none keys datum) {}).cut
  ((exactly "\x7d").cut.label "inline table").expecting "`\x7d`"
  return table

/-- Reads a value with at most `depth` levels. -/
def value : (depth : Nat) → Scan Datum
  | 0 => fun s =>
    if s.head? = some '[' ∨ s.head? = some '\x7b' then .stop { cause := some .tooDeep } s
    else (do let (v, span) ← spanned scalar; return .scalar v span : Scan Datum) s
  | depth + 1 => fun s =>
    match s.head? with
    | some '[' =>
      (do let (es, span) ← spanned (array (value depth)); return .array es span : Scan Datum) s
    | some '\x7b' =>
      (do
        let (t, span) ← spanned (inlineTable (value depth))
        return .inline { t with span := some span } : Scan Datum) s
    | _ => (do let (v, span) ← spanned scalar; return .scalar v span : Scan Datum) s

end LineShell.Toml
