import LineShell.Text.Count
import LineShell.Text.Utf8
import LineShell.Unicode.CaseMapping

/-!
# Filters on lines

What `head`, `tail`, `sort`, `uniq` and `cut` do to the lines they have read, as functions on
lists.

**Repetitions.**  `uniqBy` keeps the first line of every run of lines with equal keys.

**Byte ranges.**  `parseRanges?` reads the list of `cut`; `mergeRanges` joins ranges that
overlap or touch, so no byte is taken twice; `cutLine` takes the bytes of a line.
-/

namespace LineShell

/-! ## Ends of a list -/

/-- The last `n` lines. -/
def lastLines (n : Nat) (lines : List Text) : List Text := lines.drop (lines.length - n)

/-! ## Order -/

/-- The lines in increasing order, newlines included. -/
def sortLines (lines : List Text) : List Text := Text.sort lines

/-! ## Repetitions -/

/-- The lines whose key is not that of the line before them, given the key of the last line. -/
def uniqAfter (key : Text → Text) (last : Option Text) : List Text → List Text
  | [] => []
  | line :: rest =>
    if last = some (key line) then uniqAfter key last rest
    else line :: uniqAfter key (some (key line)) rest

/-- The first line of every run of lines with equal keys. -/
def uniqBy (key : Text → Text) (lines : List Text) : List Text := uniqAfter key none lines

/-- The key of a line: the line itself, or its lower case. -/
def lineKey (ignoreCase : Bool) (line : Text) : Text :=
  if ignoreCase then Unicode.lowercase line else line

/-! ## Byte ranges -/

/-- The bytes from `start` (counted from zero) up to `stop`, or to the end of the line. -/
structure ByteRange where
  start : Nat
  stop : Option Nat
deriving DecidableEq, Repr

/-- Reads a position, which is counted from one. -/
def position? (s : Text) : Option Nat := (Text.toCount? s).filter (0 < ·)

namespace ByteRange

/-- Reads `N`, `N-M`, `N-`, `-M` or `-`. -/
def parse? (part : Text) : Option ByteRange :=
  match Text.splitOnce ['-'] part with
  | none => (position? part).map fun n => ⟨n - 1, some n⟩
  | some (low, high) => do
    let start ← if low.isEmpty then some 0 else (position? low).map (· - 1)
    let stop ← if high.isEmpty then some none else (position? high).map some
    return ⟨start, stop⟩

/-- The order of ranges: by their start, then by their stop, the end of the line last. -/
def le (a b : ByteRange) : Bool :=
  a.start < b.start ||
    (a.start = b.start &&
      a.stop.getD (Text.countLimit - 1) ≤ b.stop.getD (Text.countLimit - 1))

/-- Whether a range that starts no earlier overlaps or touches this one. -/
def touches (a b : ByteRange) : Bool := a.stop.all fun stop => b.start ≤ stop

/-- A range with one that overlaps or touches it. -/
def join (a b : ByteRange) : ByteRange :=
  match a.stop, b.stop with
  | some m, some n => ⟨a.start, some (max m n)⟩
  | _, _ => ⟨a.start, none⟩

end ByteRange

/-- Joins ranges in order to the one before them as long as they touch it. -/
def mergeFrom (current : ByteRange) : List ByteRange → List ByteRange
  | [] => [current]
  | r :: rest =>
    if current.touches r then mergeFrom (current.join r) rest
    else current :: mergeFrom r rest

/-- The same bytes in ranges that are in order and apart. -/
def mergeRanges (ranges : List ByteRange) : List ByteRange :=
  match ranges.mergeSort ByteRange.le with
  | [] => []
  | r :: rest => mergeFrom r rest

/-- Reads the list of ranges of `cut`. -/
def parseRanges? (list : Text) : Option (List ByteRange) :=
  ((Text.splitOn ',' list).mapM ByteRange.parse?).map mergeRanges

/-- The bytes of a line in some ranges, its newline left out. -/
def pickBytes (ranges : List ByteRange) (bytes : Bytes) : Bytes :=
  ranges.flatMap fun r => (bytes.take (r.stop.getD bytes.length)).drop r.start

/-- A line cut down to some ranges of bytes. -/
def cutLine (ranges : List ByteRange) (line : Text) : Text :=
  Text.terminated (Utf8.decodeLossy
    (pickBytes ranges (Utf8.encode (Text.dropEndWhile (· = '\n') line))))

end LineShell
