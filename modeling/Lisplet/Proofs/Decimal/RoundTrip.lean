import Lisplet.Decimal.Layout
import Lisplet.Proofs.Decimal.Numeral

/-!
# Numbers read back as they were written

The shortest decimal of a number lies between the two midpoints around it, so it is rounded to the
number again. Written positionally, the decimal is a numeral with the same value. Together, a
number that is written without an exponent is read back as itself, sign included.
-/

namespace Lisplet.Decimal

/-! ### Digits of natural numbers -/

/-- The bytes of a literal are those of its characters. -/
theorem text_eq_flatMap (s : String) : text s = s.toList.flatMap String.utf8EncodeChar := by
  rw [text, String.toUTF8_eq_toByteArray, ← String.utf8Encode_toList, List.utf8Encode]
  simp

/-- The codes of the digits. -/
theorem toNat_of_isDigit {c : Char} (h : c.isDigit = true) : 48 ≤ c.toNat ∧ c.toNat ≤ 57 := by
  simpa [Char.isDigit, UInt32.le_iff_toNat_le] using h

/-- The digits of a number as bytes. -/
theorem ofNat_eq_map (n : Nat) :
    Text.ofNat n = (Nat.toDigits 10 n).map fun c => UInt8.ofNat c.toNat := by
  rw [Text.ofNat, text_eq_flatMap, Nat.toList_repr, List.map_eq_flatMap]
  refine List.flatMap_congr fun c hc => ?_
  obtain ⟨-, hle⟩ := toNat_of_isDigit (Nat.isDigit_of_mem_toDigits (by decide) (by decide) hc)
  rw [String.utf8EncodeChar, if_pos (show c.val.toNat ≤ 127 from by change c.toNat ≤ 127; omega)]
  rfl

/-- The code of a digit fits into a byte. -/
theorem toNat_digit {c : Char} (h : c.isDigit = true) : (UInt8.ofNat c.toNat).toNat = c.toNat := by
  obtain ⟨-, hle⟩ := toNat_of_isDigit h
  rw [UInt8.toNat_ofNat']
  omega

/-- A whole number is written in digits. -/
theorem allDigits_ofNat (n : Nat) : AllDigits (Text.ofNat n) := by
  intro b hb
  rw [ofNat_eq_map] at hb
  obtain ⟨c, hc, rfl⟩ := List.mem_map.mp hb
  have hdigit := Nat.isDigit_of_mem_toDigits (by decide) (by decide) hc
  have hbounds := toNat_of_isDigit hdigit
  simpa [Text.isDigit, UInt8.le_iff_toNat_le, toNat_digit hdigit] using hbounds

/-- A whole number has one digit at least. -/
theorem ofNat_ne_nil (n : Nat) : Text.ofNat n ≠ [] := by
  rw [ofNat_eq_map, ne_eq, List.map_eq_nil_iff]
  exact Nat.toDigits_ne_nil

/-- The digits of a number denote it. -/
theorem digitsValue_ofNat (n : Nat) : Text.digitsValue (Text.ofNat n) = n := by
  have hfold : ∀ cs : List Char, (∀ c ∈ cs, c.isDigit = true) → ∀ start,
      (cs.map fun c => UInt8.ofNat c.toNat).foldl (fun n b => 10 * n + (b.toNat - 48)) start =
        Nat.ofDigitChars 10 cs start := by
    intro cs hcs
    induction cs with
    | nil => simp
    | cons c cs ih =>
      intro start
      rw [List.map_cons, List.foldl_cons, toNat_digit (hcs c (by simp)),
        ih fun c hc => hcs c (by simp [hc]), Nat.ofDigitChars_cons]
      rfl
  rw [Text.digitsValue, ofNat_eq_map, hfold, Nat.ofDigitChars_ten_toDigits]
  exact fun c hc => Nat.isDigit_of_mem_toDigits (by decide) (by decide) hc

/-! ### Positional notation -/

/-- Zeros are digits. -/
theorem allDigits_zeros (n : Nat) : AllDigits (zeros n) := by
  intro b hb
  rw [List.eq_of_mem_replicate hb]
  decide

/-- Zeros have the value zero. -/
theorem digitsValue_zeros (n : Nat) : Text.digitsValue (zeros n) = 0 := by
  induction n with
  | zero => rfl
  | succ n ih =>
    rw [zeros, List.replicate_succ', digitsValue_append]
    rw [zeros] at ih
    rw [ih]
    rfl

/-- A decimal in positional notation is a numeral with the value of the decimal. -/
theorem exists_numeralText_positional (d : Scaled) :
    ∃ whole fraction, d.positional = numeralText false whole fraction ∧ AllDigits whole ∧
      whole ≠ [] ∧ (∀ digits ∈ fraction, AllDigits digits) ∧
      numeralValue whole fraction = d.digits * 10 ^ d.exponent := by
  have hdigits := allDigits_ofNat d.digits
  have hne := ofNat_ne_nil d.digits
  have hvalue := digitsValue_ofNat d.digits
  have hlength : 0 < (Text.ofNat d.digits).length := List.length_pos_of_ne_nil hne
  unfold Scaled.positional
  generalize Text.ofNat d.digits = digits at *
  simp only
  split_ifs with hsmall hlarge
  · -- All digits stand behind the point.
    have hpoint : text "0." = [48, 46] := rfl
    refine ⟨[48], some (zeros (-(digits.length + d.exponent)).toNat ++ digits), ?_,
      .singleton (by decide), by simp, ?_, ?_⟩
    · simp [numeralText, fractionText, hpoint]
    · simpa using (allDigits_zeros _).append hdigits
    · have hdenoted : Text.digitsValue ([48] ++
          (zeros (-(digits.length + d.exponent)).toNat ++ digits)) = d.digits := by
        rw [digitsValue_append, digitsValue_append, digitsValue_zeros, hvalue]
        simp [Text.digitsValue]
      rw [numeralValue, Option.getD_some, hdenoted, List.length_append, zeros,
        List.length_replicate]
      congr 2
      omega
  · -- All digits stand before the point.
    refine ⟨digits ++ zeros d.exponent.toNat, none, by simp [numeralText, fractionText],
      hdigits.append (allDigits_zeros _), by simp [hne], by simp, ?_⟩
    have hexponent : (10 : ℚ) ^ d.exponent = 10 ^ d.exponent.toNat := by
      rw [← zpow_natCast]
      congr 1
      omega
    rw [numeralValue, Option.getD_none, List.append_nil, digitsValue_append, hvalue,
      digitsValue_zeros, zeros, List.length_replicate, hexponent]
    simp
  · -- The point stands among the digits.
    have hpoint : text "." = [46] := rfl
    refine ⟨digits.take (digits.length + d.exponent).toNat,
      some (digits.drop (digits.length + d.exponent).toNat), ?_,
      fun b hb => hdigits b (List.mem_of_mem_take hb), ?_, ?_, ?_⟩
    · simp [numeralText, fractionText, hpoint]
    · rw [ne_eq, List.take_eq_nil_iff]
      rintro (hzero | hnil)
      · omega
      · exact hne hnil
    · intro part hpart b hb
      rw [← Option.mem_some.mp hpart] at hb
      exact hdigits b (List.mem_of_mem_drop hb)
    · rw [numeralValue, Option.getD_some, List.take_append_drop, hvalue, List.length_drop]
      congr 2
      omega

/-! ### Shortest decimals -/

namespace Binary

variable (x : Binary)

/-- The lower end of the interval of a value. -/
def low : ℚ := (4 * x.mantissa - if x.narrowBelow then 1 else 2) * 2 ^ (x.exponent - 2)

/-- The upper end of the interval of a value. -/
def high : ℚ := (4 * x.mantissa + 2) * 2 ^ (x.exponent - 2)

/-- A number in the interval of a value. The ends belong to it if the significand is even. -/
def Contains (q : ℚ) : Prop :=
  if x.mantissa % 2 = 0 then x.low ≤ q ∧ q ≤ x.high else x.low < q ∧ q < x.high

variable {x}

/-- The lower end of an interval in quarters of the last place. -/
theorem low_eq (hx : 0 < x.mantissa) :
    x.low = (if x.narrowBelow then 4 * x.mantissa - 1 else 4 * x.mantissa - 2 : Nat) *
      2 ^ (x.exponent - 2) := by
  unfold low
  congr 1
  split_ifs
  · rw [Nat.cast_sub (by omega)]
    push_cast
    ring
  · rw [Nat.cast_sub (by omega)]
    push_cast
    ring

/-- Quarters of the last place and multiples of a power of ten over a common denominator. -/
theorem quarter_spec (x : Binary) (grid : Int) :
    ∃ common : ℚ, 0 < common ∧
      (∀ a : Nat, (a * 2 ^ (x.exponent - 2) : ℚ) = (a * (x.quarter grid).1 : Nat) / common) ∧
      ∀ digits : Nat, (digits * 10 ^ grid : ℚ) = (digits * (x.quarter grid).2 : Nat) / common := by
  have hneg : -(x.exponent - 2) = 2 - x.exponent := by ring
  refine ⟨2 ^ (2 - x.exponent).toNat * 10 ^ (-grid).toNat, by positivity, fun a => ?_,
    fun digits => ?_⟩
  · rw [zpow_eq_div two_ne_zero, hneg]
    simp only [quarter, Nat.pow_eq]
    push_cast
    field_simp
  · rw [zpow_eq_div (by norm_num)]
    simp only [quarter, Nat.pow_eq]
    push_cast
    field_simp

/-- A decimal that reads back lies in the interval. -/
theorem contains_of_readsBack (hx : 0 < x.mantissa) {grid : Int} {digits : Nat}
    (h : x.readsBack grid digits = true) : x.Contains (digits * 10 ^ grid) := by
  obtain ⟨common, hcommon, hquarter, hgrid⟩ := quarter_spec x grid
  have hhigh : x.high = (4 * x.mantissa + 2 : Nat) * 2 ^ (x.exponent - 2) := by
    simp [high]
  rw [Contains, low_eq hx, hhigh, hquarter, hquarter, hgrid]
  simp only [div_le_div_iff_of_pos_right hcommon, div_lt_div_iff_of_pos_right hcommon, Nat.cast_le,
    Nat.cast_lt]
  simpa [readsBack] using h

/-- A value in quarters of its last place. -/
theorem value_eq_quarters (x : Binary) :
    (x.mantissa * 2 ^ x.exponent : ℚ) = 4 * x.mantissa * 2 ^ (x.exponent - 2) := by
  rw [zpow_sub₀ two_ne_zero]
  field_simp
  norm_num

/-- A number lies above the lower end of the decimals that are read as it. -/
theorem low_lt_value (x : Binary) : x.low < x.mantissa * 2 ^ x.exponent := by
  rw [value_eq_quarters, low]
  refine mul_lt_mul_of_pos_right ?_ (by positivity)
  split_ifs <;> linarith

/-- A number lies below the upper end of the decimals that are read as it. -/
theorem value_lt_high (x : Binary) : x.mantissa * 2 ^ x.exponent < x.high := by
  rw [value_eq_quarters, high]
  exact mul_lt_mul_of_pos_right (by linarith) (by positivity)

/-- The value itself lies in its interval. -/
theorem contains_self (x : Binary) : x.Contains (x.mantissa * 2 ^ x.exponent) := by
  unfold Contains
  split_ifs
  · exact ⟨x.low_lt_value.le, x.value_lt_high.le⟩
  · exact ⟨x.low_lt_value, x.value_lt_high⟩

/-- A decimal on a grid is selected only if it reads back. -/
theorem readsBack_of_onGrid? {grid : Int} {d : Scaled} (h : x.onGrid? grid = some d) :
    x.readsBack d.exponent d.digits = true := by
  unfold onGrid? at h
  simp only at h
  split at h
  · cases h
  · cases h
    assumption
  · cases h
    assumption
  · split at h
    · cases h
      assumption
    · cases h
      assumption
    · cases h
      simp only
      split_ifs <;> assumption

/-- A decimal that is found reads back. -/
theorem readsBack_of_search {steps : Nat} {grid : Int} {d : Scaled}
    (h : x.search steps grid = some d) : x.readsBack d.exponent d.digits = true := by
  induction steps generalizing grid with
  | zero => simp [search] at h
  | succ steps ih =>
    rw [search] at h
    split at h
    · rename_i decimal hdecimal
      obtain rfl := Option.some.inj h
      exact readsBack_of_onGrid? hdecimal
    · exact ih h

/-- The exact decimal has the value of the number. -/
theorem exact_value (x : Binary) :
    (x.exact.digits * 10 ^ x.exact.exponent : ℚ) = x.mantissa * 2 ^ x.exponent := by
  unfold exact
  split_ifs with hexponent
  · obtain ⟨k, hk⟩ := Int.eq_ofNat_of_zero_le hexponent
    simp [hk]
  · obtain ⟨k, hk⟩ := Int.eq_ofNat_of_zero_le (show 0 ≤ -x.exponent by omega)
    have hk' : x.exponent = -(k : Int) := by omega
    have hten : (10 : ℚ) ^ k = 5 ^ k * 2 ^ k := by
      rw [← mul_pow]
      norm_num
    simp only [hk', neg_neg, Int.toNat_natCast, Nat.pow_eq, zpow_neg, zpow_natCast, hten]
    push_cast
    field_simp

/-- The shortest decimal of a value lies in the interval of the value. -/
theorem contains_shortest (hx : 0 < x.mantissa) :
    x.Contains (x.shortest.digits * 10 ^ x.shortest.exponent) := by
  unfold shortest
  cases hsearch : x.search 24 x.topGrid with
  | some d => exact contains_of_readsBack hx (readsBack_of_search hsearch)
  | none =>
    rw [Option.getD_none, exact_value]
    exact contains_self x

end Binary

/-! ### Numbers -/

section Fields

variable {bits : Nat}

/-- The significand and the exponent of the value with given bits. -/
theorem ofFields_double (bits : Nat) :
    let x := Binary.ofFields .double (bits / 2 ^ 52) (bits % 2 ^ 52)
    x.mantissa = Width.double.significand bits ∧
      x.exponent = Width.double.leastExponent + Width.double.shift bits ∧
      (x.narrowBelow = true ↔ bits % 2 ^ 52 = 0 ∧ 1 < bits / 2 ^ 52) := by
  have hsplit := Nat.div_add_mod bits (2 ^ 52)
  unfold Binary.ofFields
  simp only [Width.significand, Width.shift, Width.double, beq_iff_eq, Nat.pow_eq]
  split_ifs with hfield
  · simp only [hfield]
    refine ⟨by omega, by simp, by simp⟩
  · refine ⟨?_, by simp only; omega, by simp⟩
    simp only
    omega

/-- The interval of a value ends at the midpoint above it. -/
theorem high_ofFields (bits : Nat) :
    (Binary.ofFields .double (bits / 2 ^ 52) (bits % 2 ^ 52)).high =
      Width.double.midpoint bits := by
  obtain ⟨hmantissa, hexponent, -⟩ := ofFields_double bits
  rw [Binary.high, Width.midpoint, hmantissa, hexponent, zpow_sub₀ two_ne_zero]
  ring

/-- The value above the last one of a binade has a significand with the leading bit only. -/
theorem fields_succ_of_narrow (hfraction : (bits + 1) % 2 ^ 52 = 0)
    (hfield : 1 < (bits + 1) / 2 ^ 52) :
    Width.double.shift (bits + 1) = Width.double.shift bits + 1 ∧
      Width.double.significand (bits + 1) = 2 ^ 52 ∧
      Width.double.significand bits = 2 ^ 53 - 1 := by
  simp only [Width.significand, Width.shift, Width.double]
  omega

/-- Elsewhere the next value has the next significand. -/
theorem fields_succ (h : ¬ ((bits + 1) % 2 ^ 52 = 0 ∧ 1 < (bits + 1) / 2 ^ 52)) :
    Width.double.shift (bits + 1) = Width.double.shift bits ∧
      Width.double.significand (bits + 1) = Width.double.significand bits + 1 := by
  simp only [Width.significand, Width.shift, Width.double]
  omega

/-- The interval of a value begins at the midpoint below it. -/
theorem low_ofFields (bits : Nat) :
    (Binary.ofFields .double ((bits + 1) / 2 ^ 52) ((bits + 1) % 2 ^ 52)).low =
      Width.double.midpoint bits := by
  obtain ⟨hmantissa, hexponent, hnarrow⟩ := ofFields_double (bits + 1)
  rw [Binary.low, Width.midpoint, hmantissa, hexponent]
  by_cases h : (bits + 1) % 2 ^ 52 = 0 ∧ 1 < (bits + 1) / 2 ^ 52
  · obtain ⟨hshift, hsignificand, hsignificand'⟩ := fields_succ_of_narrow h.1 h.2
    rw [if_pos (hnarrow.mpr h), hshift, hsignificand, hsignificand']
    rw [show Width.double.leastExponent + ((Width.double.shift bits + 1 : Nat) : Int) - 2 =
      Width.double.leastExponent + Width.double.shift bits - 1 by push_cast; ring,
      zpow_sub₀ two_ne_zero]
    norm_num
    ring
  · obtain ⟨hshift, hsignificand⟩ := fields_succ h
    rw [if_neg fun hn => h (hnarrow.mp hn), hshift, hsignificand, zpow_sub₀ two_ne_zero]
    push_cast
    ring

/-- The significands of neighbours are not both even. -/
theorem significand_parity (h : Width.double.significand (bits + 1) % 2 = 0) :
    Width.double.significand bits % 2 ≠ 0 := by
  by_cases hnarrow : (bits + 1) % 2 ^ 52 = 0 ∧ 1 < (bits + 1) / 2 ^ 52
  · have := (fields_succ_of_narrow hnarrow.1 hnarrow.2).2.2
    omega
  · have := (fields_succ hnarrow).2
    omega

/-- The shortest decimal of a value is rounded to the value. -/
theorem nearestDecimal_shortest (hbits : bits + 1 < Width.double.infinite) :
    let d := (Binary.ofFields .double ((bits + 1) / 2 ^ 52) ((bits + 1) % 2 ^ 52)).shortest
    Width.double.nearestDecimal d.digits d.exponent = bits + 1 := by
  obtain ⟨hmantissa, -, -⟩ := ofFields_double (bits + 1)
  have hpositive : 0 < Width.double.significand (bits + 1) := by
    simp only [Width.significand, Width.shift, Width.double]
    omega
  have hcontains := Binary.contains_shortest (hmantissa ▸ hpositive)
  rw [Binary.Contains, low_ofFields, high_ofFields, hmantissa] at hcontains
  apply Width.nearestDecimal_double_eq hbits
  · rintro (hlt | ⟨heq, hodd⟩)
    · split_ifs at hcontains <;> linarith [hcontains.1]
    · split_ifs at hcontains with heven
      · exact significand_parity heven hodd
      · exact hcontains.1.ne' heq
  · split_ifs at hcontains with heven
    · rcases hcontains.2.lt_or_eq with hlt | heq
      · exact Or.inl hlt
      · exact Or.inr ⟨heq, heven⟩
    · exact Or.inl hcontains.2

end Fields

/-- A numeral is read as the number whose bits are nearest to its value. -/
theorem parse?_of_value {n : Float} {negative : Bool} {whole : Text} {fraction : Option Text}
    {digits bits : Nat} {exponent : Int} (hwhole : AllDigits whole) (hne : whole ≠ [])
    (hfraction : ∀ part ∈ fraction, AllDigits part)
    (hvalue : numeralValue whole fraction = digits * 10 ^ exponent)
    (hnearest : Width.double.nearestDecimal digits exponent = bits)
    (hbits : n.toBits.toNat = Width.double.signed negative bits) :
    parse? (numeralText negative whole fraction) = some n := by
  rw [parse?_numeralText hwhole hfraction (Or.inl hne)]
  refine congrArg some (Float.toBits_inj.mp (UInt64.toNat_inj.mp ?_))
  rw [toNat_toBits_nearest, hbits, ← hnearest]
  congr 1
  apply le_antisymm
  · exact Width.nearestDecimal_double_mono hvalue.le
  · exact Width.nearestDecimal_double_mono hvalue.ge

/-- The scientific form has an exponent. -/
theorem mem_scientific (d : Scaled) : 101 ∈ d.scientific := by
  have hmark : text "e" = [101] := rfl
  simp [Scaled.scientific, hmark]

/-- A value that is written without an exponent is written positionally. -/
theorem render_eq_positional {style : Style} {x : Binary} (h : 101 ∉ x.render style) :
    x.render style = x.shortest.positional := by
  unfold Binary.render at h ⊢
  simp only at h ⊢
  split_ifs at h ⊢
  · rfl
  · exact absurd (mem_scientific _) h
  · rfl

/-- The bits of a number are its sign and the bits of its absolute value. -/
theorem toBits_eq_signed (n : Float) :
    n.toBits.toNat = Width.double.signed (decide (2 ^ 63 ≤ n.toBits.toNat))
      (n.toBits.toNat % 2 ^ 63) := by
  have hlt : n.toBits.toNat < 2 ^ 64 := n.toBits.toNat_lt
  simp only [Width.signed, Width.signBit_double, decide_eq_true_eq]
  split_ifs <;> omega

/-- The source text of a number in terms of its sign, its exponent field and its fraction. -/
theorem sourceText_eq (n : Float) :
    sourceText n = renderFields .source .double (decide (2 ^ 63 ≤ n.toBits.toNat))
      (n.toBits.toNat % 2 ^ 63 / 2 ^ 52) (n.toBits.toNat % 2 ^ 63 % 2 ^ 52) := by
  have hfield : n.toBits.toNat / 0x10000000000000 % 2048 = n.toBits.toNat % 2 ^ 63 / 2 ^ 52 := by
    omega
  have hfraction : n.toBits.toNat % 0x10000000000000 = n.toBits.toNat % 2 ^ 63 % 2 ^ 52 := by omega
  rw [sourceText, render, hfield, hfraction]
  rfl

/-- The text of the bits of a finite number is a sign and the text of the absolute value. -/
theorem renderFields_double {bits : Nat} (hfinite : bits < Width.double.infinite) (style : Style)
    (negative : Bool) :
    renderFields style .double negative (bits / 2 ^ 52) (bits % 2 ^ 52) =
      (if negative then [45] else []) ++ if bits = 0 then [48] else
        (Binary.ofFields .double (bits / 2 ^ 52) (bits % 2 ^ 52)).render style := by
  have hsign : (if negative then text "-" else []) = (if negative then [45] else [] : Text) := by
    cases negative <;> rfl
  have hdigit : text "0" = [48] := rfl
  have hfield : ¬ bits / 2 ^ 52 = Width.double.topField := by
    rw [Width.infinite_double] at hfinite
    simp only [Width.double]
    omega
  have hzero : (bits / 2 ^ 52 = 0 ∧ bits % 2 ^ 52 = 0) ↔ bits = 0 := by omega
  simp only [renderFields, hsign, hdigit, beq_iff_eq, if_neg hfield, Bool.and_eq_true, hzero]
  split_ifs <;> rfl

/-- The text of given bits is a numeral with digits before the point, which is read as the number
with these bits. -/
theorem exists_numeralText_renderFields {n : Float} {style : Style} {negative : Bool} {bits : Nat}
    (hfinite : bits < Width.double.infinite)
    (hbits : n.toBits.toNat = Width.double.signed negative bits)
    (hexponent : 101 ∉ renderFields style .double negative (bits / 2 ^ 52) (bits % 2 ^ 52)) :
    ∃ whole fraction, renderFields style .double negative (bits / 2 ^ 52) (bits % 2 ^ 52) =
        numeralText negative whole fraction ∧
      AllDigits whole ∧ whole ≠ [] ∧ (∀ digits ∈ fraction, AllDigits digits) ∧
      parse? (numeralText negative whole fraction) = some n := by
  rw [renderFields_double hfinite] at hexponent ⊢
  by_cases hzero : bits = 0
  · have hvalue : numeralValue [48] none = (0 : Nat) * 10 ^ (0 : Int) := by
      simp [numeralValue, Text.digitsValue]
    have hnearest : Width.double.nearestDecimal 0 0 = bits := by
      rw [hzero]
      rfl
    rw [if_pos hzero]
    have hwhole : AllDigits [48] := .singleton (by decide)
    exact ⟨[48], none, by simp [numeralText, fractionText], hwhole, by simp, by simp,
      parse?_of_value hwhole (by simp) (by simp) hvalue hnearest hbits⟩
  · rw [if_neg hzero] at hexponent ⊢
    rw [render_eq_positional fun hmem => hexponent (List.mem_append_right _ hmem)]
    obtain ⟨whole, fraction, hpositional, hwhole, hne, hfraction, hvalue⟩ :=
      exists_numeralText_positional
        (Binary.ofFields .double (bits / 2 ^ 52) (bits % 2 ^ 52)).shortest
    obtain ⟨lower, rfl⟩ : ∃ lower, bits = lower + 1 := ⟨bits - 1, by omega⟩
    refine ⟨whole, fraction, ?_, hwhole, hne, hfraction,
      parse?_of_value hwhole hne hfraction hvalue (nearestDecimal_shortest hfinite) hbits⟩
    rw [hpositional]
    simp [numeralText]

/-- The text of a finite number that is written without an exponent is a numeral with digits before
the point, and it is read as the number. -/
theorem exists_numeralText_sourceText {n : Float} (hfinite : n.isFinite = true)
    (hexponent : 101 ∉ sourceText n) :
    ∃ negative whole fraction, sourceText n = numeralText negative whole fraction ∧
      AllDigits whole ∧ whole ≠ [] ∧ (∀ digits ∈ fraction, AllDigits digits) ∧
      parse? (sourceText n) = some n := by
  rw [sourceText_eq] at hexponent ⊢
  obtain ⟨whole, fraction, htext, hwhole, hne, hfraction, hparse⟩ :=
    exists_numeralText_renderFields ((isFinite_iff n).mp hfinite) (toBits_eq_signed n) hexponent
  exact ⟨_, whole, fraction, htext, hwhole, hne, hfraction, by rwa [htext]⟩

end Lisplet.Decimal
