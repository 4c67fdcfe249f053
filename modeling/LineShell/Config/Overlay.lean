import LineShell.Config.Basic
import LineShell.Text.Quoted
import LineShell.Toml.Document

/-!
# Overlays in TOML

An overlay is written as two tables, `settings` and `applications`.  Names that are not known are
passed over; a value of the wrong kind is an error at its place.

A table may also be written as an array of its values in order, and a date in its place says
nothing.
-/

namespace LineShell

open Toml (Datum)

namespace Overlay

/-! ## Errors -/

/-- The text of a floating-point number. -/
def realText : Toml.Real → Text
  | .finite negative b => (if negative then ['-'] else []) ++ b.shortest.text
  | .infinite negative => (if negative then ['-'] else []) ++ "inf.0".toList
  | .notANumber => "NaN.0".toList

/-- What a datum is, as messages have it. -/
def describe : Datum → Text
  | .scalar (.string s) _ => "string ".toList ++ Text.quoted s
  | .scalar (.integer n) _ =>
    "integer `".toList ++ (if n < 0 then ['-'] else []) ++ Text.ofNat n.natAbs ++ ['`']
  | .scalar (.float x) _ => "floating point `".toList ++ realText x ++ ['`']
  | .scalar (.boolean b) _ =>
    "boolean `".toList ++ (if b then "true" else "false").toList ++ ['`']
  | .array _ _ => "sequence".toList
  | .tables _ => "sequence".toList
  | _ => "map".toList

/-- The error of a datum of the wrong kind. -/
def mismatch (datum : Datum) (expected : String) : Toml.Error :=
  ⟨"invalid type: ".toList ++ describe datum ++ ", expected ".toList ++ expected.toList,
    datum.span?⟩

/-- The error of a list that ends too early. -/
def tooShort (datum : Datum) (count : Nat) (expected : String) : Toml.Error :=
  ⟨"invalid length ".toList ++ Text.ofNat count ++ ", expected ".toList ++ expected.toList,
    datum.span?⟩

/-- Places an error that has no place yet. -/
def placed {α : Type} (span : Toml.Span) : Except Toml.Error α → Except Toml.Error α
  | .ok a => .ok a
  | .error e => .error { e with span := e.span.or (some span) }

/-! ## Values -/

/-- A string. -/
def readString : Datum → Except Toml.Error Text
  | .scalar (.string s) _ => .ok s
  | datum => .error (mismatch datum "a string")

/-- A truth value. -/
def readBool : Datum → Except Toml.Error Bool
  | .scalar (.boolean b) _ => .ok b
  | datum => .error (mismatch datum "a boolean")

/-- The elements of an array. -/
def elements? : Datum → Option (List Datum)
  | .array es _ => some es
  | .tables ts => some (ts.map .table)
  | _ => none

/-- A list of strings. -/
def readStrings (datum : Datum) : Except Toml.Error (List Text) :=
  match elements? datum with
  | some es => es.mapM readString
  | none => .error (mismatch datum "a sequence")

/-! ## Tables -/

/-- The entries of a table. -/
def entries? : Datum → Option (List (Toml.Key × Datum))
  | .inline t => some t.entries
  | .table t => some t.entries
  | .scalar .datetime _ => some []
  | _ => none

/-- Reads the entries of a table one after another. -/
def readEntries {α : Type} (start : α) (read : α → Text → Datum → Except Toml.Error α)
    (entries : List (Toml.Key × Datum)) : Except Toml.Error α :=
  entries.foldlM (fun a (k, datum) => placed k.span (read a k.name datum)) start

/-- Reads one setting. -/
def readSetting (o : SettingsOverlay) (name : Text) (datum : Datum) :
    Except Toml.Error SettingsOverlay :=
  if name = "log_level".toList then
    (readString datum).map fun s => { o with logLevel := some s }
  else if name = "log_file".toList then
    (readString datum).map fun s => { o with logFile := some s }
  else if name = "history_file".toList then
    (readString datum).map fun s => { o with historyFile := some s }
  else .ok o

/-- Reads the settings. -/
def readSettings (datum : Datum) : Except Toml.Error SettingsOverlay :=
  match entries? datum, elements? datum with
  | some entries, _ => readEntries {} readSetting entries
  | none, some es =>
    let names := ["log_level", "log_file", "history_file"].map String.toList
    (names.zip es).foldlM (fun o (name, e) => readSetting o name e) {} >>= fun o =>
      if es.length < 3 then
        .error (tooShort datum es.length "struct SettingsOverlay with 3 elements")
      else .ok o
  | none, none => .error (mismatch datum "struct SettingsOverlay")

/-- Reads one entry about the applications. -/
def readApp (o : AppsOverlay) (name : Text) (datum : Datum) : Except Toml.Error AppsOverlay :=
  if name = "replace".toList then (readBool datum).map fun b => { o with replaced := b }
  else if name = "unsafe_prefix".toList then
    (readString datum).map fun s => { o with mark := some s }
  else if name = "disabled".toList then
    (readStrings datum).map fun xs => { o with disabled := xs }
  else if name = "remove_disabled".toList then
    (readStrings datum).map fun xs => { o with enabled := xs }
  else .ok o

/-- Reads the choice of applications. -/
def readApps (datum : Datum) : Except Toml.Error AppsOverlay :=
  match entries? datum, elements? datum with
  | some entries, _ => readEntries {} readApp entries
  | none, some es =>
    let names := ["replace", "unsafe_prefix", "disabled", "remove_disabled"].map String.toList
    (names.zip es).foldlM (fun o (name, e) => readApp o name e) {} >>= fun o =>
      if es.length < 2 then .error (tooShort datum 1 "struct ApplicationsOverlay with 4 elements")
      else .ok o
  | none, none => .error (mismatch datum "struct ApplicationsOverlay")

/-- Reads one of the tables. -/
def readSection (o : Overlay) (name : Text) (datum : Datum) : Except Toml.Error Overlay :=
  if name = "settings".toList then
    (readSettings datum).map fun s => { o with settings := s }
  else if name = "applications".toList then (readApps datum).map fun a => { o with apps := a }
  else .ok o

/-- Reads an overlay. -/
def parse (source : Text) : Except Toml.Error Overlay := do
  readEntries {} readSection (← Toml.parse source).entries

end Overlay

end LineShell
