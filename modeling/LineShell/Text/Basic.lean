import LineShell.Text.Blank

/-!
# Text

A text is a list of characters, one cell per Unicode scalar value, so that every rule below is a
recursion on the list and every law an induction.

**Blanks.**  `trimStart`, `trimEnd` and `trim` drop blanks at the ends, `collapseBlanks` turns
each run of blanks into one space, `words` are the maximal runs of characters that are not blank.

**Lines.**  `splitLines` cuts a text after every newline and terminates a last line that lacks
one; `terminated` is that repair for one line.

**Search.**  `splitOnce` cuts at the first occurrence of a marker, `splitOn` at every occurrence
of a character.

**Order.**  `Text.le` compares by code point, which is also the order of the UTF-8 encodings.
-/

namespace LineShell

/-- Text as a list of characters. -/
abbrev Text := List Char

namespace Text

/-! ## Ends -/

/-- The text without the longest run of `p`-characters at its end. -/
def dropEndWhile (p : Char → Bool) : Text → Text
  | [] => []
  | c :: cs =>
    match dropEndWhile p cs with
    | [] => if p c then [] else [c]
    | d :: ds => c :: d :: ds

/-- The text without leading blanks. -/
def trimStart (s : Text) : Text := s.dropWhile isBlank

/-- The text without trailing blanks. -/
def trimEnd (s : Text) : Text := dropEndWhile isBlank s

/-- The text without blanks at either end. -/
def trim (s : Text) : Text := trimEnd (trimStart s)

/-- A text is blank when it has no character that is not. -/
def isBlankText (s : Text) : Bool := s.all isBlank

/-- Whether the last character is a newline. -/
def endsLine (s : Text) : Bool := s.getLast? == some '\n'

/-! ## Blanks inside -/

/-- Every run of blanks becomes one space; `inRun` says that the run has already been written. -/
def collapseFrom : (inRun : Bool) → Text → Text
  | _, [] => []
  | inRun, c :: cs =>
    if isBlank c then
      if inRun then collapseFrom true cs else ' ' :: collapseFrom true cs
    else c :: collapseFrom false cs

/-- Every run of blanks becomes one space. -/
def collapseBlanks (s : Text) : Text := collapseFrom false s

/-- The word that starts the text (empty when the text starts with a blank) and the words
    after it. -/
def firstWord : Text → Text × List Text
  | [] => ([], [])
  | c :: cs =>
    let (w, ws) := firstWord cs
    if isBlank c then ([], if w.isEmpty then ws else w :: ws) else (c :: w, ws)

/-- The maximal runs of characters that are not blank, in order. -/
def words (s : Text) : List Text :=
  let (w, ws) := firstWord s
  if w.isEmpty then ws else w :: ws

/-! ## Lines -/

/-- The line with one newline added if it lacks one. -/
def terminated (s : Text) : Text := if endsLine s then s else s ++ ['\n']

/-- The lines of a text, each ending in its newline; a last line without one gets it. -/
def splitLines : Text → List Text
  | [] => []
  | c :: cs =>
    if c = '\n' then ['\n'] :: splitLines cs
    else
      match splitLines cs with
      | [] => [[c, '\n']]
      | l :: ls => (c :: l) :: ls

/-- A text as one line: one final newline is dropped and every other one becomes a space. -/
def flatten (s : Text) : Text :=
  (if endsLine s then s.dropLast else s).map fun c => if c = '\n' then ' ' else c

/-! ## Search -/

/-- The parts before and after the first occurrence of `marker`. -/
def splitOnce (marker : Text) : Text → Option (Text × Text)
  | [] => if marker.isEmpty then some ([], []) else none
  | c :: cs =>
    if marker.isPrefixOf (c :: cs) then some ([], (c :: cs).drop marker.length)
    else (splitOnce marker cs).map fun (before, after) => (c :: before, after)

/-- The parts between the occurrences of `sep`; there is always at least one. -/
def splitOn (sep : Char) : Text → List Text
  | [] => [[]]
  | c :: cs =>
    if c = sep then [] :: splitOn sep cs
    else
      match splitOn sep cs with
      | [] => [[c]]
      | p :: ps => (c :: p) :: ps

/-- The texts one after another with `sep` between neighbours. -/
def join (sep : Text) : List Text → Text
  | [] => []
  | [s] => s
  | s :: rest => s ++ sep ++ join sep rest

/-! ## Order -/

/-- Lexicographic order by code point. -/
def le : Text → Text → Bool
  | [], _ => true
  | _ :: _, [] => false
  | a :: as, b :: bs => if a = b then le as bs else a.toNat < b.toNat

/-- The texts in increasing order; equal texts stay beside each other. -/
def sort (xs : List Text) : List Text := xs.mergeSort le

/-! ## Numbers -/

/-- The decimal digits of a number. -/
def ofNat (n : Nat) : Text := Nat.toDigits 10 n

end Text

end LineShell
