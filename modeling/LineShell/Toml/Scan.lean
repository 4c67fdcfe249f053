import LineShell.Toml.Error

/-!
# Scanning

A `Scan` reads from the front of a text.  It ends in one of three ways, each with the text left:
with a value; in a *miss*, after which something else may be tried; or in a *stop*, after which
nothing is.  What is left at a stop is the place of the error.

Repetition is bounded by the length of the text, as no step of it reads nothing.
-/

namespace LineShell.Toml

/-- How a scan ends. -/
inductive Step (α : Type) where
  | ok (value : α) (rest : Text)
  | miss (why : Problem) (rest : Text)
  | stop (why : Problem) (rest : Text)

/-- A reader of text. -/
def Scan (α : Type) : Type := Text → Step α

namespace Scan

instance : Monad Scan where
  pure a := fun s => .ok a s
  bind p f := fun s =>
    match p s with
    | .ok a rest => f a rest
    | .miss why rest => .miss why rest
    | .stop why rest => .stop why rest

variable {α β : Type}

/-! ## Errors -/

/-- A miss. -/
def fail : Scan α := fun s => .miss {} s

/-- No way back. -/
def cut (p : Scan α) : Scan α := fun s =>
  match p s with
  | .miss why rest => .stop why rest
  | r => r

/-- Adds to what a problem says. -/
def annotate (f : Problem → Problem) (p : Scan α) : Scan α := fun s =>
  match p s with
  | .ok a rest => .ok a rest
  | .miss why rest => .miss (f why) rest
  | .stop why rest => .stop (f why) rest

/-- Says what is being read; what an inner reader has said stands. -/
def label (name : String) (p : Scan α) : Scan α :=
  p.annotate fun why => { why with label := why.label.or (some name.toList) }

/-- Says what would be accepted. -/
def expecting (what : String) (p : Scan α) : Scan α :=
  p.annotate fun why => { why with expected := why.expected ++ [what.toList] }

/-- Goes on with what a value stands for; if it stands for nothing, that is a miss at its
    start. -/
def check (p : Scan α) (f : α → Except Cause β) : Scan β := fun s =>
  match p s with
  | .miss why rest => .miss why rest
  | .stop why rest => .stop why rest
  | .ok a rest =>
    match f a with
    | .ok b => .ok b rest
    | .error cause => .miss { cause := some cause } s

/-! ## Choice and repetition -/

/-- Tries the second reader after a miss of the first. -/
def orElse (p q : Scan α) : Scan α := fun s =>
  match p s with
  | .miss _ _ => q s
  | r => r

/-- The value, or none after a miss, in which case nothing is read. -/
def optional (p : Scan α) : Scan (Option α) := fun s =>
  match p s with
  | .ok a rest => .ok (some a) rest
  | .miss _ _ => .ok none s
  | .stop why rest => .stop why rest

/-- Reads ahead. -/
def peek (p : Scan α) : Scan α := fun s =>
  match p s with
  | .ok a _ => .ok a s
  | .miss why _ => .miss why s
  | .stop why _ => .stop why s

/-- At most `bound` values one after another, up to the first miss. -/
def manyAtMost (p : Scan α) : (bound : Nat) → Scan (List α)
  | 0 => fun s => .ok [] s
  | bound + 1 => fun s =>
    match p s with
    | .miss _ _ => .ok [] s
    | .stop why rest => .stop why rest
    | .ok a rest =>
      match manyAtMost p bound rest with
      | .ok as left => .ok (a :: as) left
      | r => r

/-- Values one after another, up to the first miss. -/
def many (p : Scan α) : Scan (List α) := fun s => manyAtMost p s.length s

/-- Values with separators between them, at least one. -/
def separated (p : Scan α) (sep : Scan β) : Scan (List α) := do
  let first ← p
  let more ← many (sep >>= fun _ => p)
  return first :: more

/-- Values with separators between them. -/
def separated0 (p : Scan α) (sep : Scan β) : Scan (List α) := do
  return (← optional (separated p sep)).getD []

/-! ## Characters -/

/-- How many characters are left. -/
def left : Scan Nat := fun s => .ok s.length s

/-- The next character, which is not read. -/
def next? : Scan (Option Char) := fun s => .ok s.head? s

/-- One character that passes a test. -/
def one (test : Char → Bool) : Scan Char := fun s =>
  match s with
  | c :: rest => if test c then .ok c rest else .miss {} s
  | [] => .miss {} s

/-- A text as it is. -/
def exactly (t : String) : Scan Unit := fun s =>
  if t.toList.isPrefixOf s then .ok () (s.drop t.length) else .miss {} s

/-- The longest run of characters that pass a test. -/
def takeWhile (test : Char → Bool) : Scan Text := fun s => .ok (s.takeWhile test) (s.dropWhile test)

/-- The longest run of characters that pass a test, at least one. -/
def takeWhile1 (test : Char → Bool) : Scan Text := do
  let c ← one test
  let cs ← takeWhile test
  return c :: cs

/-- Exactly so many characters that pass a test; a miss is at their start. -/
def times (count : Nat) (test : Char → Bool) : Scan Text := fun s =>
  let run := s.take count
  if run.length = count ∧ run.all test then .ok run (s.drop count) else .miss {} s

/-- The end of the text. -/
def atEnd : Scan Unit := fun s => if s.isEmpty then .ok () s else .miss {} s

/-! ## Blanks and lines -/

/-- Spaces and tabs. -/
def blanks : Scan Text := takeWhile fun c => c = ' ' || c = '\t'

/-- A line end. -/
def newline : Scan Unit := orElse (exactly "\n") (exactly "\x0d\n")

/-- Whether a character may stand in a comment. -/
def isCommentChar (c : Char) : Bool := c = '\t' || (0x20 ≤ c.toNat && c.toNat ≠ 0x7F)

/-- A comment up to the end of its line. -/
def comment : Scan Unit := do
  exactly "#"
  let _ ← takeWhile isCommentChar

/-- The end of a line or of the text. -/
def lineEnd : Scan Unit := orElse newline atEnd

/-- What may stand at the end of a line. -/
def trailing : Scan Unit := do
  let _ ← blanks
  let _ ← optional comment
  lineEnd

/-- Blanks, line ends and comments. -/
def filler : Scan Unit := do
  let blank : Scan Unit := do
    let _ ← takeWhile1 fun c => c = ' ' || c = '\t'
  let _ ← many (orElse blank (orElse newline comment))

/-- A value with the stretch it was read from. -/
def spanned (p : Scan α) : Scan (α × Span) := do
  let start ← left
  let a ← p
  let stop ← left
  return (a, ⟨start, stop⟩)

end Scan

end LineShell.Toml
