import LineShell.Text.Basic

/-!
# UTF-8

Files and streams hold bytes, the shell works on characters.

**Writing.**  `encode` writes every character in its one to four bytes.

**Reading.**  `scan` reads byte by byte with the state of an unfinished sequence and answers a
list in which an ill-formed stretch stands as `none`.  `decode?` accepts exactly the lists without
such a stretch; `decodeLossy` writes U+FFFD for each.  An ill-formed stretch is as long as it is
the beginning of some well-formed sequence, and at least one byte.
-/

namespace LineShell

/-- The contents of a file or stream. -/
abbrev Bytes := List UInt8

namespace Utf8

/-! ## Writing -/

/-- The bytes of one character. -/
def encodeChar (c : Char) : Bytes :=
  let n := c.toNat
  if n < 0x80 then [n.toUInt8]
  else if n < 0x800 then [(0xC0 + n / 0x40).toUInt8, (0x80 + n % 0x40).toUInt8]
  else if n < 0x10000 then
    [(0xE0 + n / 0x1000).toUInt8, (0x80 + n / 0x40 % 0x40).toUInt8, (0x80 + n % 0x40).toUInt8]
  else
    [(0xF0 + n / 0x40000).toUInt8, (0x80 + n / 0x1000 % 0x40).toUInt8,
      (0x80 + n / 0x40 % 0x40).toUInt8, (0x80 + n % 0x40).toUInt8]

/-- The bytes of a text. -/
def encode (s : Text) : Bytes := s.flatMap encodeChar

/-- How many bytes a text takes. -/
def size : Text → Nat
  | [] => 0
  | c :: cs => c.utf8Size + size cs

/-! ## Reading -/

/-- What has been read of an unfinished sequence: the code so far, how many bytes are still
    missing, and the range that the next one has to lie in. -/
structure Pending where
  code : Nat
  missing : Nat
  low : Nat
  high : Nat

/-- What one byte does at the start of a sequence: a whole character, an unfinished sequence, or
    neither. -/
inductive Lead where
  | char (c : Char)
  | pending (p : Pending)
  | stray

/-- Reads the first byte of a sequence.  The ranges of the second byte leave out overlong forms,
    surrogates and codes past U+10FFFF. -/
def lead (b : UInt8) : Lead :=
  let n := b.toNat
  if n < 0x80 then .char (Char.ofNat n)
  else if n < 0xC2 then .stray
  else if n < 0xE0 then .pending ⟨n - 0xC0, 1, 0x80, 0xBF⟩
  else if n = 0xE0 then .pending ⟨0, 2, 0xA0, 0xBF⟩
  else if n = 0xED then .pending ⟨0xD, 2, 0x80, 0x9F⟩
  else if n < 0xF0 then .pending ⟨n - 0xE0, 2, 0x80, 0xBF⟩
  else if n = 0xF0 then .pending ⟨0, 3, 0x90, 0xBF⟩
  else if n < 0xF4 then .pending ⟨n - 0xF0, 3, 0x80, 0xBF⟩
  else if n = 0xF4 then .pending ⟨4, 3, 0x80, 0x8F⟩
  else .stray

/-- Reads bytes after an unfinished sequence; an ill-formed stretch is answered as `none`. -/
def scan : Option Pending → Bytes → List (Option Char)
  | none, [] => []
  | some _, [] => [none]
  | none, b :: bs =>
    match lead b with
    | .char c => some c :: scan none bs
    | .pending p => scan (some p) bs
    | .stray => none :: scan none bs
  | some p, b :: bs =>
    if p.low ≤ b.toNat ∧ b.toNat ≤ p.high then
      let code := p.code * 0x40 + (b.toNat - 0x80)
      if p.missing ≤ 1 then some (Char.ofNat code) :: scan none bs
      else scan (some ⟨code, p.missing - 1, 0x80, 0xBF⟩) bs
    else
      none ::
        match lead b with
        | .char c => some c :: scan none bs
        | .pending q => scan (some q) bs
        | .stray => none :: scan none bs

/-- The text of a well-formed byte list. -/
def decode? (bs : Bytes) : Option Text := (scan none bs).mapM id

/-- The text of any byte list, with U+FFFD for every ill-formed stretch. -/
def decodeLossy (bs : Bytes) : Text := (scan none bs).map fun c => c.getD '\uFFFD'

end Utf8

end LineShell
