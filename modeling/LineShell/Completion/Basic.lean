import LineShell.Application.Input
import LineShell.Completion.Split

/-!
# Completing a line

**The word.**  `Typed.ofLine` cuts a line into what stands before the word that is being typed and
that word as written: it starts after the last blank outside quotes.  Quotes are flat here: one
opens a span that the next of its kind closes.  `Typed.word` is the word with its quotes taken
off.

**Candidates.**  A word without a slash is completed to the names that start with it, any other
word to the paths that do.
-/

namespace LineShell.Completion

/-! ## The word -/

/-- A line cut where the word at its end starts. -/
structure Typed where
  /-- What stands before the word. -/
  before : Text := []
  /-- The word as written. -/
  raw : Text := []
  /-- The quote that is still open. -/
  quote : Option Char := none
deriving DecidableEq, Repr

namespace Typed

/-- Adds a character at the end of the line. -/
def add (t : Typed) (c : Char) : Typed :=
  match t.quote with
  | some q => { t with raw := t.raw ++ [c], quote := if c = q then none else some q }
  | none =>
    if c = '"' ∨ c = '\'' then { t with raw := t.raw ++ [c], quote := some c }
    else if isBlank c then ⟨t.before ++ t.raw ++ [c], [], none⟩
    else { t with raw := t.raw ++ [c] }

/-- Cuts a line. -/
def ofLine (line : Text) : Typed := line.foldl add {}

/-- How many bytes stand before the word. -/
def offset (t : Typed) : Nat := Utf8.size t.before

/-- The word without its quotes; quotes that do not pair up are taken off its start only. -/
def word (t : Typed) : Text :=
  match splitWords? t.raw with
  | some (w :: _) => w
  | _ => t.raw.dropWhile fun c => c = '"' || c = '\''

end Typed

/-! ## Candidates -/

/-- A path, with a slash after it if it leads to a directory. -/
def markDirectory (host : Host) (path : Text) : Text :=
  if host.files.isDirectory host.cwd path then path ++ ['/'] else path

/-- The paths that start with a word, in order. -/
def paths (host : Host) (word : Text) : List Text :=
  match Glob.expand host.files host.cwd (Glob.escape word ++ ['*']) with
  | .ok found => Text.sort (found.map (markDirectory host))
  | .error _ => []

/-- What a word can be completed to. -/
def candidates (host : Host) (names : List Text) (word : Text) : List Text :=
  if word.contains '/' then paths host word else names.filter (word.isPrefixOf ·)

end LineShell.Completion
