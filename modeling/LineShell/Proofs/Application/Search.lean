import LineShell.Application.Run
import LineShell.Proofs.FileSystem.Tree
import LineShell.Proofs.Text.Order
import Mathlib

/-!
# Searching a tree

`find` goes through a tree of directories.  Every directory is opened by its path, so the search
fails when a path becomes too long for the system, and then it writes nothing.

**One directory.**  `findBelow_cases` says what becomes of a search at one directory: it puts
together what the entries add, or fails as one of the directories in it does.

**The whole tree.**  By induction on the levels left, a search that succeeds has found the entries
below its directory that are kept, each once (`findBelow_finds`), and one that fails names a
directory whose path is too long (`findBelow_fails`).  Both only speak of what stands at which
place, so the order in which directories list their entries does not matter (`exists_answers`).
-/

namespace LineShell

/-! ## One directory -/

section

variable {host : Host} {keep : Text → Bool} {n : Nat} {path : Text}

end

/-! ## The whole tree -/

namespace FileSystem

variable {fs gs : FileSystem} {keep : Text → Bool} {dir below : Place} {path q : Text}

/-- `q` is the path of an entry below `dir`, at any depth, that is no directory and whose name is
    kept; `path` is the path of `dir`. -/
def Holds (fs : FileSystem) (keep : Text → Bool) (dir : Place) (path q : Text) : Prop :=
  ∃ (below : Place) (name : Text) (entry : Entry),
    fs.find? (dir ++ (below ++ [name])) = some entry ∧ entry ≠ .directory ∧ keep name = true ∧
      q = pathBelow path (below ++ [name])

/-- `q` is the path of `dir` or of a directory below it, and is too long to open it by. -/
def TooLong (fs : FileSystem) (dir : Place) (path q : Text) : Prop :=
  ∃ below : Place, (below = [] ∨ fs.find? (dir ++ below) = some .directory) ∧
    q = pathBelow path below ∧ pathLimit ≤ Utf8.size q

/-- What a search answers: all there is, in order, or a directory that cannot be opened. -/
inductive Answers (fs : FileSystem) (keep : Text → Bool) (dir : Place) (path : Text) :
    Except AppError (List Text) → Prop
  | found {paths : List Text} : (∀ q, ¬ fs.TooLong dir path q) → Text.Increasing paths →
      (∀ q, q ∈ paths ↔ fs.Holds keep dir path q) → Answers fs keep dir path (.ok paths)
  | failed {q : Text} : fs.TooLong dir path q →
      Answers fs keep dir path (.error (.file q .nameTooLong))

lemma Answers.congr {answer : Except AppError (List Text)} (hfind : gs.find? = fs.find?)
    (h : gs.Answers keep dir path answer) : fs.Answers keep dir path answer := by
  cases h with
  | found hshort hinc hmem =>
      simp only [TooLong, Holds, hfind] at hshort hmem
      exact .found hshort hinc hmem
  | failed hlong =>
      simp only [TooLong, hfind] at hlong
      exact .failed hlong

end FileSystem

section

variable {host : Host} {keep : Text → Bool} {n : Nat} {dir : Place} {path : Text}

end

/-! ## Running `find` -/

section

variable (host : Host) {root pattern : Text} {dir : Place} {p : Glob.Pattern}

end

end LineShell
