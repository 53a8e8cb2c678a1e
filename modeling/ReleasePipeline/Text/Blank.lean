/-
  This file defines the two character classes that decide
  whether a piece of text is blank or may stand in a path:
  the Unicode property White_Space and the general category
  Cc (control).

  Key definitions include:
    * `Text.isSpace`
    * `Text.isControl`
    * `Text.isBlank`
-/

------------------------------------------------------------
-- Character Classes
------------------------------------------------------------

namespace ReleasePipeline

namespace Text

/- The code points with the property White_Space. -/
def isSpace (c : Char) : Bool :=
  let n := c.toNat
  (0x09 ≤ n && n ≤ 0x0D) || n == 0x20 || n == 0x85 ||
    n == 0xA0 || n == 0x1680 ||
    (0x2000 ≤ n && n ≤ 0x200A) || n == 0x2028 ||
    n == 0x2029 || n == 0x202F || n == 0x205F || n == 0x3000

/- The code points of the general category Cc. -/
def isControl (c : Char) : Bool :=
  let n := c.toNat
  n ≤ 0x1F || (0x7F ≤ n && n ≤ 0x9F)

/- A text is blank when it holds nothing but White_Space. -/
def isBlank (s : String) : Bool :=
  s.toList.all isSpace

end Text

end ReleasePipeline
