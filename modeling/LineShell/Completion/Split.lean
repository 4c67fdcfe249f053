import LineShell.Text.Basic

/-!
# Splitting a line into words

`splitWords?` reads a line the way a shell does before it runs it: blanks part words, quotes and
backslashes protect them, and a number sign where a word would start hides the rest of its line.

* Between single quotes every character stands for itself.
* Between double quotes a backslash protects `$`, a backquote, a double quote and a backslash;
  before any other character it stands for itself.
* Elsewhere it protects whatever follows.
* A backslash before a newline removes both.

A quote that is not closed, or a backslash at the end, leaves no words at all.
-/

namespace LineShell.Completion

/-- What the next character is part of. -/
inductive Mode where
  /-- Between words. -/
  | gap
  /-- In a comment. -/
  | comment
  /-- In a word, outside quotes. -/
  | word
  /-- After a backslash outside quotes. -/
  | escape
  /-- Between single quotes. -/
  | single
  /-- Between double quotes. -/
  | double
  /-- After a backslash between double quotes. -/
  | doubleEscape
deriving DecidableEq, Repr

/-- Whether a character parts words. -/
def isGap (c : Char) : Bool := c = ' ' || c = '\t' || c = '\n'

/-- Whether a backslash between double quotes protects a character. -/
def isProtected (c : Char) : Bool := c = '$' || c = '`' || c = '"' || c = '\\'

/-- What a character of a word does outside quotes: the mode after it, and what it adds. -/
def wordStep (c : Char) : Mode × Text :=
  if c = '"' then (.double, []) else if c = '\'' then (.single, [])
  else if c = '\\' then (.escape, []) else (.word, [c])

/-- The words of the rest of a line, after `done` and the beginning `current` of the next. -/
def splitFrom (mode : Mode) (done : List Text) (current : Text) : Text → Option (List Text)
  | [] =>
    match mode with
    | .gap => some done
    | .comment => some done
    | .word => some (done ++ [current])
    | _ => none
  | c :: cs =>
    match mode with
    | .gap =>
      if isGap c then splitFrom .gap done [] cs
      else if c = '#' then splitFrom .comment done [] cs
      else splitFrom (wordStep c).1 done (wordStep c).2 cs
    | .comment => splitFrom (if c = '\n' then .gap else .comment) done [] cs
    | .word =>
      if isGap c then splitFrom .gap (done ++ [current]) [] cs
      else splitFrom (wordStep c).1 done (current ++ (wordStep c).2) cs
    | .escape => splitFrom .word done (if c = '\n' then current else current ++ [c]) cs
    | .single =>
      if c = '\'' then splitFrom .word done current cs
      else splitFrom .single done (current ++ [c]) cs
    | .double =>
      if c = '"' then splitFrom .word done current cs
      else if c = '\\' then splitFrom .doubleEscape done current cs
      else splitFrom .double done (current ++ [c]) cs
    | .doubleEscape =>
      let added := if isProtected c then [c] else if c = '\n' then [] else ['\\', c]
      splitFrom .double done (current ++ added) cs

/-- The words of a line. -/
def splitWords? (line : Text) : Option (List Text) := splitFrom .gap [] [] line

end LineShell.Completion
