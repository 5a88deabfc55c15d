import Lisplet.Decimal.Shortest
import Lisplet.Text.Basic

/-!
# Reading numbers

A decimal is read as the nearest floating-point number, a tie going to the even one. Decimals beyond
the range of the format give an infinity, which the callers treat as an overflow. The rounding is
exact: it works on the bits of the result, with natural numbers only.
-/

namespace Lisplet.Decimal

/-- The whole number nearest to `n / d`; a tie goes to the even one. -/
def roundedQuotient (n d : Nat) : Nat :=
  if 2 * (n % d) < d || (2 * (n % d) == d && n / d % 2 == 0) then n / d else n / d + 1

/-- The exponent of the largest power of two that is not above `n / d`. -/
def binaryMagnitude (n d : Nat) : Int :=
  let estimate : Int := (n.log2 : Int) - d.log2
  if d * Nat.pow 2 estimate.toNat ≤ n * Nat.pow 2 (-estimate).toNat then estimate else estimate - 1

namespace Width

/-- The bits of the positive infinity. -/
def infinite (w : Width) : Nat := w.topField * Nat.pow 2 w.fractionBits

/-- The bit of the sign. -/
def signBit (w : Width) : Nat := (w.topField + 1) * Nat.pow 2 w.fractionBits

/-- The power of two that the last place of a significand near `n / d` stands for. -/
def lastPlace (w : Width) (n d : Nat) : Int :=
  max w.leastExponent (binaryMagnitude n d - w.fractionBits)

/-- The bits of the value nearest to the positive number `n / d`. A significand that is rounded up
to a power of two carries over into the exponent field. -/
def nearest (w : Width) (n d : Nat) : Nat :=
  let place := w.lastPlace n d
  min w.infinite ((place - w.leastExponent).toNat * Nat.pow 2 w.fractionBits
    + roundedQuotient (n * Nat.pow 2 (-place).toNat) (d * Nat.pow 2 place.toNat))

/-- The bits of the value nearest to `digits * 10 ^ exponent`. Exponents far outside the range are
settled at once. -/
def nearestDecimal (w : Width) (digits : Nat) (exponent : Int) : Nat :=
  if digits == 0 then 0
  else if 400 < exponent then w.infinite
  else if exponent < -400 - (digits.log2 : Int) then 0
  else w.nearest (digits * Nat.pow 10 exponent.toNat) (Nat.pow 10 (-exponent).toNat)

/-- The bits of a value with a sign. -/
def signed (w : Width) (negative : Bool) (bits : Nat) : Nat :=
  if negative then w.signBit + bits else bits

end Width

/-- The number nearest to `digits * 10 ^ exponent`, with a sign. -/
def nearest (negative : Bool) (digits : Nat) (exponent : Int) : Float :=
  Float.ofBits (UInt64.ofNat
    (Width.double.signed negative (Width.double.nearestDecimal digits exponent)))

/-- The number of single precision nearest to `digits * 10 ^ exponent`, with a sign. -/
def nearestSingle (negative : Bool) (digits : Nat) (exponent : Int) : Float32 :=
  Float32.ofBits (UInt32.ofNat
    (Width.single.signed negative (Width.single.nearestDecimal digits exponent)))

/-- The parts of a decimal numeral. -/
structure Numeral where
  /-- Whether a minus sign stands in front. -/
  negative : Bool
  /-- The digits before the point. -/
  whole : Text
  /-- The digits behind the point, if there is a point. -/
  fraction : Option Text
  /-- The exponent, if one is written. -/
  exponent : Option Int

/-- All digits of a numeral as one number. -/
def Numeral.digits (n : Numeral) : Nat := Text.digitsValue (n.whole ++ n.fraction.getD [])

/-- The power of ten that the digits of a numeral are multiplied with. -/
def Numeral.power (n : Numeral) : Int := n.exponent.getD 0 - (n.fraction.getD []).length

/-- The number that a numeral denotes. -/
def Numeral.value (n : Numeral) : Float := nearest n.negative n.digits n.power

/-- The number of single precision that a numeral denotes. -/
def Numeral.single (n : Numeral) : Float32 := nearestSingle n.negative n.digits n.power

/-- Whether a text begins with a minus sign, and the text behind its sign. -/
def splitSign : Text → Bool × Text
  | 45 :: rest => (true, rest)
  | 43 :: rest => (false, rest)
  | rest => (false, rest)

/-- The digits behind a point, if the text begins with one, and the text behind them. -/
def splitFraction : Text → Option Text × Text
  | 46 :: rest => (some (rest.takeWhile Text.isDigit), rest.dropWhile Text.isDigit)
  | rest => (none, rest)

/-- The exponent part of a numeral: a letter `e`, an optional sign and digits. -/
def parseExponent? : Text → Option (Option Int)
  | [] => some none
  | e :: rest =>
    if e != 101 && e != 69 then none
    else
      let (negative, digits) := splitSign rest
      if digits.isEmpty || !digits.all Text.isDigit then none
      else
        let n : Int := Text.digitsValue digits
        some (some (if negative then -n else n))

/-- Reads a numeral: an optional sign, digits with at most one point among them, and an optional
exponent. At least one digit stands before the exponent. -/
def parseNumeral? (t : Text) : Option Numeral :=
  let (negative, body) := splitSign t
  let whole := body.takeWhile Text.isDigit
  let (fraction, rest) := splitFraction (body.dropWhile Text.isDigit)
  if whole.isEmpty && (fraction.getD []).isEmpty then none
  else (parseExponent? rest).map fun exponent => ⟨negative, whole, fraction, exponent⟩

/-- The number that a decimal text denotes. -/
def parse? (t : Text) : Option Float := (parseNumeral? t).map Numeral.value

/-- The number of single precision that a decimal text denotes. -/
def parseSingle? (t : Text) : Option Float32 := (parseNumeral? t).map Numeral.single

end Lisplet.Decimal
