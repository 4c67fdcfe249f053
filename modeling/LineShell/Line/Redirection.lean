import LineShell.Text.Basic

/-!
# Redirections

A redirection as written (`Operator` and target) and as classified (`Redirection`: a direction, a
file name and a mode).
-/

namespace LineShell

/-- The redirection operators. -/
inductive Operator where
  /-- `<` -/
  | input
  /-- `>` -/
  | output
  /-- `>>` -/
  | append
  /-- `<<` -/
  | heredoc
deriving DecidableEq, Repr

/-- The characters of an operator. -/
def Operator.symbol : Operator → Text
  | .input => "<".toList
  | .output => ">".toList
  | .append => ">>".toList
  | .heredoc => "<<".toList

/-- Which way the data goes. -/
inductive Direction where
  | input
  | output
deriving DecidableEq, Repr

/-- How the target is used. -/
inductive Mode where
  | plain
  /-- Output is added at the end of the file. -/
  | append
  /-- The target is the line that ends the input, not a file. -/
  | heredoc
deriving DecidableEq, Repr

/-- A classified redirection. -/
structure Redirection where
  direction : Direction
  filename : Text
  mode : Mode
deriving DecidableEq, Repr

/-- Classifies an operator with its target. -/
def Redirection.ofOperator (op : Operator) (target : Text) : Redirection :=
  match op with
  | .input => ⟨.input, target, .plain⟩
  | .heredoc => ⟨.input, target, .heredoc⟩
  | .output => ⟨.output, target, .plain⟩
  | .append => ⟨.output, target, .append⟩

end LineShell
