import LineShell.Text.Basic

/-!
# Levels of the log

A level admits the records that are as severe as it or more so.
-/

namespace LineShell

/-- How severe a record is. -/
inductive Level where
  | error
  | warn
  | info
  | debug
  | trace
deriving DecidableEq, Repr

namespace Level

/-- The less severe, the greater. -/
def rank : Level → Nat
  | error => 1
  | warn => 2
  | info => 3
  | debug => 4
  | trace => 5

/-- Whether a log of this level takes a record of another one. -/
def admits (level record : Level) : Bool := record.rank ≤ level.rank

/-- The name in the log. -/
def name : Level → Text
  | error => "ERROR".toList
  | warn => "WARN".toList
  | info => "INFO".toList
  | debug => "DEBUG".toList
  | trace => "TRACE".toList

/-- The level of a configured name, blanks around it and case aside; none turns the log off.  A
    name that is not known means warnings. -/
def ofName? (name : Text) : Option Level :=
  let key := (Text.trim name).map Char.toLower
  if key.isEmpty ∨ key = "off".toList then none
  else if key = "error".toList then some error
  else if key = "info".toList then some info
  else if key = "debug".toList then some debug
  else if key = "trace".toList then some trace
  else some warn

end Level

end LineShell
