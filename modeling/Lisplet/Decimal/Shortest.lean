/-!
# Shortest decimals

A floating-point value stands for every real number that rounds to it. `shortest` selects, among the
decimals in that interval, one on the coarsest power of ten that has any, and of two of them the
nearer; a tie goes to the even one. All comparisons are exact, on natural numbers.
-/

namespace Lisplet.Decimal

/-- A positive floating-point value `mantissa * 2 ^ exponent` and the shape of its interval. -/
structure Binary where
  /-- The significand, as a whole number. -/
  mantissa : Nat
  /-- The power of two that scales it. -/
  exponent : Int
  /-- Whether the next value below is only half as far away as the next value above. -/
  narrowBelow : Bool

/-- A format is given by the bits of its fraction, the exponent of its least values and the field
of its infinities. -/
structure Width where
  /-- How many bits the fraction has. -/
  fractionBits : Nat
  /-- The power of two by which the least positive value is scaled. -/
  leastExponent : Int
  /-- The last exponent field, which no finite value has. -/
  topField : Nat

/-- Numbers of sixty-four bits. -/
def Width.double : Width := ⟨52, -1074, 2047⟩

/-- Numbers of thirty-two bits. -/
def Width.single : Width := ⟨23, -149, 255⟩

/-- The value with a given exponent field and fraction field. A field of zero holds the values
without a leading bit. -/
def Binary.ofFields (width : Width) (field fraction : Nat) : Binary :=
  if field == 0 then ⟨fraction, width.leastExponent, false⟩
  else ⟨Nat.pow 2 width.fractionBits + fraction, width.leastExponent + (field - 1),
    fraction == 0 && 1 < field⟩

/-- The decimal `digits * 10 ^ exponent`. -/
structure Scaled where
  /-- The digits, as a number. -/
  digits : Nat
  /-- The power of ten that scales them. -/
  exponent : Int
  deriving DecidableEq, Repr

namespace Binary

/-- One quarter of the value's last place, as a fraction of `10 ^ grid`: numerator and
denominator. -/
def quarter (x : Binary) (grid : Int) : Nat × Nat :=
  (Nat.pow 2 (x.exponent - 2).toNat * Nat.pow 10 (-grid).toNat,
    Nat.pow 2 (2 - x.exponent).toNat * Nat.pow 10 grid.toNat)

/-- Whether `digits * 10 ^ grid` lies in the interval of the value. The ends belong to it if the
significand is even. -/
def readsBack (x : Binary) (grid : Int) (digits : Nat) : Bool :=
  let (unit, denominator) := x.quarter grid
  let low := (if x.narrowBelow then 4 * x.mantissa - 1 else 4 * x.mantissa - 2) * unit
  let high := (4 * x.mantissa + 2) * unit
  let here := digits * denominator
  if x.mantissa % 2 == 0 then low ≤ here && here ≤ high else low < here && here < high

/-- The multiple of `10 ^ grid` in the interval that is nearest to the value, if there is one. -/
def onGrid? (x : Binary) (grid : Int) : Option Scaled :=
  let (unit, denominator) := x.quarter grid
  let below := 4 * x.mantissa * unit / denominator
  match x.readsBack grid below, x.readsBack grid (below + 1) with
  | false, false => none
  | true, false => some ⟨below, grid⟩
  | false, true => some ⟨below + 1, grid⟩
  | true, true =>
    match compare (2 * (4 * x.mantissa * unit)) ((2 * below + 1) * denominator) with
    | .lt => some ⟨below, grid⟩
    | .gt => some ⟨below + 1, grid⟩
    | .eq => some ⟨if below % 2 == 0 then below else below + 1, grid⟩

/-- The first grid that has a hit, going down from `grid` by at most `steps` powers of ten. -/
def search (x : Binary) : (steps : Nat) → (grid : Int) → Option Scaled
  | 0, _ => none
  | steps + 1, grid =>
    match x.onGrid? grid with
    | some decimal => some decimal
    | none => x.search steps (grid - 1)

/-- A power of ten that is not below the value. -/
def topGrid (x : Binary) : Int :=
  ((x.mantissa.log2 + 1 + x.exponent) * 30103).fdiv 100000 + 1

/-- The value as a decimal, with all of its digits. -/
def exact (x : Binary) : Scaled :=
  if 0 ≤ x.exponent then ⟨x.mantissa * Nat.pow 2 x.exponent.toNat, 0⟩
  else ⟨x.mantissa * Nat.pow 5 (-x.exponent).toNat, x.exponent⟩

/-- The shortest decimal that reads back as the value, and of those the nearest. -/
def shortest (x : Binary) : Scaled := (x.search 24 x.topGrid).getD x.exact

/-- Whether the value is a whole number below a bound. -/
def isWholeBelow (x : Binary) (bound : Nat) : Bool :=
  if 0 ≤ x.exponent then x.mantissa * Nat.pow 2 x.exponent.toNat < bound
  else
    let unit := Nat.pow 2 (-x.exponent).toNat
    x.mantissa % unit == 0 && x.mantissa < bound * unit

end Binary

end Lisplet.Decimal
