/-!
# Blank characters

`isBlank` decides the Unicode property `White_Space`.  Every rule of the shell that speaks of
blanks (trimming, words, collapsed literals, redirection targets) goes through this one test.
-/

namespace LineShell

/-- The characters with the property `White_Space`: the ASCII controls from tab to carriage
    return, the space, next line, no-break space and the wider spaces and separators. -/
def isBlank (c : Char) : Bool :=
  let n := c.toNat
  (9 ≤ n && n ≤ 13) || n == 0x20 || n == 0x85 || n == 0xA0 || n == 0x1680 ||
    (0x2000 ≤ n && n ≤ 0x200A) || n == 0x2028 || n == 0x2029 || n == 0x202F ||
    n == 0x205F || n == 0x3000

end LineShell
