import Lisplet.Text.Basic
import Lisplet.Decimal.Shortest

/-!
# How numbers are written

Numbers are written with the fewest digits that identify them. The notation is positional if the
leading digit stands between the fourth place behind the point and the sixth place before it, and
scientific elsewhere, with a signed exponent of at least two digits. Source text makes an exception
for whole numbers below ten to the fifteenth, which are always positional.
-/

namespace Lisplet.Decimal

/-- A decision that a format makes for itself. -/
structure Style where
  /-- Whole numbers below this bound are written positionally. -/
  wholeBelow : Nat

/-- Numbers as source text and values show them. -/
def Style.source : Style := ⟨1000000000000000⟩

/-- Numbers as messages about foreign data show them. -/
def Style.foreign : Style := ⟨0⟩

/-- A row of zeros. -/
def zeros (n : Nat) : Text := List.replicate n 48

/-- A decimal with its point where the exponent puts it. -/
def Scaled.positional (d : Scaled) : Text :=
  let digits := Text.ofNat d.digits
  let point : Int := digits.length + d.exponent
  if point ≤ 0 then text "0." ++ zeros (-point).toNat ++ digits
  else if digits.length ≤ point then digits ++ zeros d.exponent.toNat
  else digits.take point.toNat ++ text "." ++ digits.drop point.toNat

/-- The exponent of the leading digit. -/
def Scaled.magnitude (d : Scaled) : Int := (Text.ofNat d.digits).length + d.exponent - 1

/-- An exponent with its sign and at least two digits. -/
def exponentText (e : Int) : Text :=
  let digits := Text.ofNat e.natAbs
  (if e < 0 then text "-" else text "+") ++ zeros (2 - digits.length) ++ digits

/-- A decimal with its point behind the leading digit and an exponent. -/
def Scaled.scientific (d : Scaled) : Text :=
  let digits := Text.ofNat d.digits
  let tail := digits.drop 1
  digits.take 1 ++ (if tail.isEmpty then [] else text "." ++ tail) ++ text "e"
    ++ exponentText d.magnitude

/-- The text of a positive value under a style. -/
def Binary.render (style : Style) (x : Binary) : Text :=
  let d := x.shortest
  if x.isWholeBelow style.wholeBelow then d.positional
  else if d.magnitude < -4 || 6 ≤ d.magnitude then d.scientific
  else d.positional

/-- The text of a value given by its sign and its two fields. -/
def renderFields (style : Style) (width : Width) (negative : Bool) (field fraction : Nat) : Text :=
  let sign := if negative then text "-" else []
  if field == width.topField then
    if fraction != 0 then text "NaN"
    else if negative then text "-Inf" else text "+Inf"
  else if field == 0 && fraction == 0 then sign ++ text "0"
  else sign ++ (Binary.ofFields width field fraction).render style

/-- The text of a number. -/
def render (style : Style) (n : Float) : Text :=
  let bits := n.toBits.toNat
  renderFields style .double (0x8000000000000000 ≤ bits) (bits / 0x10000000000000 % 2048)
    (bits % 0x10000000000000)

/-- The text of a number of single precision. -/
def renderSingle (style : Style) (n : Float32) : Text :=
  let bits := n.toBits.toNat
  renderFields style .single (0x80000000 ≤ bits) (bits / 0x800000 % 256) (bits % 0x800000)

/-- The text of a number in source text. -/
def sourceText (n : Float) : Text := render .source n

end Lisplet.Decimal
