import LineShell.Text.Basic

/-!
# Builtin applications by name

The thirteen applications that the shell comes with, in the order in which they are registered.
-/

namespace LineShell

/-- The builtin applications. -/
inductive Builtin where
  | cd
  | pwd
  | ls
  | find
  | echo
  | cat
  | head
  | tail
  | grep
  | sort
  | uniq
  | cut
  | help
deriving DecidableEq, Repr

namespace Builtin

/-- All builtins, in the order of registration. -/
def all : List Builtin :=
  [cd, pwd, ls, find, echo, cat, head, tail, grep, sort, uniq, cut, help]

/-- The name of a builtin. -/
def name : Builtin → Text
  | cd => "cd".toList
  | pwd => "pwd".toList
  | ls => "ls".toList
  | find => "find".toList
  | echo => "echo".toList
  | cat => "cat".toList
  | head => "head".toList
  | tail => "tail".toList
  | grep => "grep".toList
  | sort => "sort".toList
  | uniq => "uniq".toList
  | cut => "cut".toList
  | help => "--help".toList

/-- The builtin of a name. -/
def ofName? (s : Text) : Option Builtin := all.find? fun b => b.name = s

/-- Whether the builtin takes the rest of the command line as one argument. -/
def isRaw : Builtin → Bool
  | echo => true
  | _ => false

/-- Whether the builtin also comes in the form that prints its failures. -/
def hasTolerantForm : Builtin → Bool
  | help => false
  | _ => true

end Builtin

end LineShell
