import LineShell.Unicode.Property

/-!
# Quoted text

The log shows texts between double quotes, with everything that would not show written out: a
quote and a backslash after a backslash, tab, line feed, carriage return and NUL by their letters,
and all other characters that have no shape of their own by their code.
-/

namespace LineShell.Text

/-- The characters that are written by their code: controls, format characters, surrogates,
    private use, unassigned, separators other than the space, and marks that join the character
    before them. -/
def hiddenChars : CharSet :=
  ((Unicode.categories "cc cf cs co cn zl zp zs").diff (.single ' ')).union
    (Unicode.property "grext")

/-- Whether a character is written by its code. -/
def isHidden (c : Char) : Bool :=
  if c.toNat < 0x80 then c.toNat < 0x20 || c.toNat = 0x7F else hiddenChars.contains c

/-- A character as it stands in a quoted text. -/
def quotedChar (c : Char) : Text :=
  if c.toNat = 0 then ['\\', '0']
  else if c = '\t' then ['\\', 't']
  else if c = '\n' then ['\\', 'n']
  else if c = '\r' then ['\\', 'r']
  else if c = '"' ∨ c = '\\' then ['\\', c]
  else if isHidden c then "\\u\x7b".toList ++ Nat.toDigits 16 c.toNat ++ ['\x7d']
  else [c]

/-- A text between double quotes. -/
def quoted (s : Text) : Text := '"' :: (s.flatMap quotedChar ++ ['"'])

/-- Some quoted texts in brackets. -/
def quotedList (xs : List Text) : Text :=
  '[' :: (join ", ".toList (xs.map quoted) ++ [']'])

end LineShell.Text
