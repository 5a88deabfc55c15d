import Lisplet.Text.Rune

/-!
# White space

The twenty-five code points that separate tokens, and trimming by them.
-/

namespace Lisplet

/-- Whether a code point is white space. -/
def isBlankCode (n : Nat) : Bool :=
  (0x9 ≤ n && n ≤ 0xD) || n == 0x20 || n == 0x85 || n == 0xA0 || n == 0x1680
    || (0x2000 ≤ n && n ≤ 0x200A) || n == 0x2028 || n == 0x2029 || n == 0x202F || n == 0x205F
    || n == 0x3000

/-- Whether a rune is white space. -/
def Rune.isBlank (r : Rune) : Bool := isBlankCode r.code

/-- A text without the white space at its two ends. -/
def Text.trim (t : Text) : Text :=
  let rs := t.runes.dropWhile Rune.isBlank
  Text.ofRunes (rs.reverse.dropWhile Rune.isBlank).reverse

end Lisplet
