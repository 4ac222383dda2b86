/-!
# Blank characters

The characters that count as blank around a text, and cutting them off.  The set holds the
separators of Unicode as well as the ASCII controls that separate files, groups, records and units.
-/

set_option autoImplicit false

namespace Remediation.Text

/-- The blank characters. -/
def isBlank (c : Char) : Bool :=
  let n := c.toNat
  (0x09 ≤ n && n ≤ 0x0d) || (0x1c ≤ n && n ≤ 0x20) || n == 0x85 || n == 0xa0 || n == 0x1680 ||
  (0x2000 ≤ n && n ≤ 0x200a) || n == 0x2028 || n == 0x2029 || n == 0x202f || n == 0x205f ||
  n == 0x3000

/-- Cut the characters of a class off both ends. -/
def trimBoth (p : Char → Bool) (cs : List Char) : List Char :=
  ((cs.dropWhile p).reverse.dropWhile p).reverse

/-- Cut the characters of a class off the end. -/
def trimEnd (p : Char → Bool) (cs : List Char) : List Char :=
  (cs.reverse.dropWhile p).reverse

/-- Cut the blanks off both ends. -/
def stripChars (cs : List Char) : List Char := trimBoth isBlank cs

/-- Cut the blanks off both ends. -/
def strip (s : String) : String := String.ofList (stripChars s.toList)

end Remediation.Text
