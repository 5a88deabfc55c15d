import Lisplet.Proofs.Decimal.RoundTrip

/-!
# The notation that a number is written in

Whole numbers below ten to the fifteenth are written positionally, and so are all numbers from
0.0001 up to a million. The others are written with an exponent. The notation is selected by the
leading digit of the shortest decimal of the number. Rounding is monotone, so this digit tells on
which side of a power of ten the number itself lies.
-/

namespace Lisplet.Decimal

/-! ### Values in the order of their bits -/

namespace Width

/-- The value with given bits. -/
def value (w : Width) (bits : Nat) : ℚ :=
  w.significand bits * 2 ^ (w.leastExponent + w.shift bits)

/-- The value of bits is that of their exponent field and their fraction. -/
theorem value_double (bits : Nat) :
    double.value bits = (Binary.ofFields .double (bits / 2 ^ 52) (bits % 2 ^ 52)).mantissa *
      2 ^ (Binary.ofFields .double (bits / 2 ^ 52) (bits % 2 ^ 52)).exponent := by
  obtain ⟨hmantissa, hexponent, -⟩ := ofFields_double bits
  rw [value, hmantissa, hexponent]

/-- Values are ordered like their bits: a midpoint separates neighbours. -/
theorem value_double_strictMono : StrictMono double.value := by
  refine strictMono_nat_of_lt_succ fun bits => ?_
  calc double.value bits < double.midpoint bits := by
        rw [value_double, ← high_ofFields]
        exact Binary.value_lt_high _
    _ < double.value (bits + 1) := by
        rw [value_double, ← low_ofFields]
        exact Binary.low_lt_value _

end Width

/-- Whether a value is a whole number below a bound. -/
theorem Binary.isWholeBelow_iff (x : Binary) (bound : Nat) :
    x.isWholeBelow bound = true ↔ ∃ k : ℕ, k < bound ∧ (x.mantissa * 2 ^ x.exponent : ℚ) = k := by
  unfold isWholeBelow
  split_ifs with hexponent
  · -- The value is whole, and its bound is decided on natural numbers.
    have hvalue : (x.mantissa * 2 ^ x.exponent : ℚ) =
        (x.mantissa * Nat.pow 2 x.exponent.toNat : Nat) := by
      rw [zpow_eq_div two_ne_zero, show (-x.exponent).toNat = 0 by omega]
      simp
    rw [hvalue, decide_eq_true_eq]
    simp only [Nat.cast_inj]
    exact ⟨fun h => ⟨_, h, rfl⟩, fun ⟨k, hk, heq⟩ => heq ▸ hk⟩
  · have hvalue : ∀ k : ℕ, (x.mantissa * 2 ^ x.exponent : ℚ) = k ↔
        x.mantissa = k * 2 ^ (-x.exponent).toNat := by
      intro k
      rw [zpow_eq_div two_ne_zero, show x.exponent.toNat = 0 by omega, pow_zero, mul_one_div,
        div_eq_iff (by positivity)]
      exact_mod_cast Iff.rfl
    have hunit : 0 < 2 ^ (-x.exponent).toNat := Nat.two_pow_pos _
    simp only [hvalue, Nat.pow_eq, Bool.and_eq_true, beq_iff_eq, decide_eq_true_eq]
    constructor
    · rintro ⟨hwhole, hbound⟩
      exact ⟨_, (Nat.div_lt_iff_lt_mul hunit).mpr hbound,
        (Nat.div_mul_cancel (Nat.dvd_of_mod_eq_zero hwhole)).symm⟩
    · rintro ⟨k, hk, heq⟩
      rw [heq]
      exact ⟨Nat.mul_mod_left k _, Nat.mul_lt_mul_of_pos_right hk hunit⟩

/-! ### The leading digit -/

/-- A number has more than `k` digits exactly if it is at least the `k`-th power of ten. -/
theorem lt_length_ofNat_iff {n : Nat} (hn : 0 < n) (k : Nat) :
    k < (Text.ofNat n).length ↔ 10 ^ k ≤ n := by
  have hlength : (Text.ofNat n).length = (Nat.toDigits 10 n).length := by
    rw [ofNat_eq_map, List.length_map]
  rcases Nat.eq_zero_or_pos k with rfl | hk
  · exact iff_of_true (List.length_pos_of_ne_nil (ofNat_ne_nil n)) hn
  · rw [hlength, ← not_le, Nat.length_toDigits_le_iff (by decide) hk, not_lt]

/-- The leading digit of a decimal stands at a place or above it exactly if the decimal is at least
the power of ten of that place. -/
theorem Scaled.le_magnitude_iff {d : Scaled} (hd : 0 < d.digits) (e : Int) :
    e ≤ d.magnitude ↔ (10 : ℚ) ^ e ≤ d.digits * 10 ^ d.exponent := by
  have hplace : (10 : ℚ) ^ e ≤ d.digits * 10 ^ d.exponent ↔
      (10 : ℚ) ^ (e - d.exponent) ≤ d.digits := by
    rw [zpow_sub₀ (by norm_num), div_le_iff₀ (by positivity)]
  have hone : (1 : ℚ) ≤ d.digits := by exact_mod_cast hd
  have hlength : 0 < (Text.ofNat d.digits).length :=
    List.length_pos_of_ne_nil (ofNat_ne_nil d.digits)
  rw [hplace, magnitude]
  rcases le_total (e - d.exponent) 0 with hnegative | hpositive
  · exact iff_of_true (by omega)
      ((zpow_le_one_of_nonpos₀ (by norm_num) hnegative).trans hone)
  · obtain ⟨k, hk⟩ := Int.eq_ofNat_of_zero_le hpositive
    have hpower : (10 : ℚ) ^ (e - d.exponent) ≤ d.digits ↔ 10 ^ k ≤ d.digits := by
      rw [hk, zpow_natCast]
      exact_mod_cast Iff.rfl
    rw [hpower, ← lt_length_ofNat_iff hd]
    omega

/-- The shortest decimal of the value with given bits. -/
def shortestOf (bits : Nat) : Scaled :=
  (Binary.ofFields .double (bits / 2 ^ 52) (bits % 2 ^ 52)).shortest

section Shortest

variable {bits : Nat} (hpos : 0 < bits) (hfinite : bits < Width.double.infinite)
include hpos hfinite

/-- The shortest decimal of some bits is read back as these bits. -/
theorem nearestDecimal_shortestOf :
    Width.double.nearestDecimal (shortestOf bits).digits (shortestOf bits).exponent = bits := by
  obtain ⟨lower, rfl⟩ : ∃ lower, bits = lower + 1 := ⟨bits - 1, by omega⟩
  exact nearestDecimal_shortest hfinite

/-- The shortest decimal of a number other than zero is not zero. -/
theorem digits_shortestOf_pos : 0 < (shortestOf bits).digits := by
  rw [Nat.pos_iff_ne_zero]
  intro hzero
  have hnearest := nearestDecimal_shortestOf hpos hfinite
  rw [hzero] at hnearest
  exact hpos.ne hnearest

/-- The leading digit of the shortest decimal tells whether a value lies below a power of ten, if
that power is its own shortest decimal. -/
theorem le_magnitude_shortestOf_iff {e : Int}
    (hpower : shortestOf (Width.double.nearestDecimal 1 e) = ⟨1, e⟩) :
    e ≤ (shortestOf bits).magnitude ↔ Width.double.nearestDecimal 1 e ≤ bits := by
  have hnearest := nearestDecimal_shortestOf hpos hfinite
  rw [Scaled.le_magnitude_iff (digits_shortestOf_pos hpos hfinite)]
  constructor
  · intro hle
    rw [← hnearest]
    exact Width.nearestDecimal_double_mono (by simpa using hle)
  · intro hle
    rcases hle.eq_or_lt with rfl | hlt
    · rw [hpower]
      simp
    · -- A decimal below the power would be rounded to the power or lower.
      by_contra hless
      have hbelow : ((shortestOf bits).digits * 10 ^ (shortestOf bits).exponent : ℚ) ≤
          (1 : Nat) * 10 ^ e := by
        simpa using (not_le.mp hless).le
      have hmono := Width.nearestDecimal_double_mono hbelow
      omega

/-- The leading digit stands at a positional place if the value lies from 0.0001 up to a million. -/
theorem magnitude_shortestOf_iff :
    (-4 ≤ (shortestOf bits).magnitude ∧ ¬ 6 ≤ (shortestOf bits).magnitude) ↔
      Width.double.nearestDecimal 1 (-4) ≤ bits ∧ bits < Width.double.nearestDecimal 1 6 := by
  rw [le_magnitude_shortestOf_iff hpos hfinite (by decide +kernel),
    le_magnitude_shortestOf_iff hpos hfinite (by decide +kernel), not_le]

end Shortest

/-! ### Which numbers are written positionally -/

/-- The absolute value of a finite number. -/
def absolute (n : Float) : ℚ := Width.double.value (n.toBits.toNat % 2 ^ 63)

/-- A number that is whole and below ten to the fifteenth, or one from 0.0001 up to a million. -/
def IsPositional (n : Float) : Prop :=
  (∃ k : ℕ, k < 10 ^ 15 ∧ absolute n = k) ∨ absolute 0.0001 ≤ absolute n ∧ absolute n < 10 ^ 6

/-- The least number without an exponent is the one nearest to one in ten thousand. -/
theorem absolute_least :
    absolute 0.0001 = Width.double.value (Width.double.nearestDecimal 1 (-4)) :=
  congrArg Width.double.value (by decide +kernel)

/-- One million is a number. -/
theorem value_million : Width.double.value (Width.double.nearestDecimal 1 6) = 10 ^ 6 := by
  rw [show Width.double.nearestDecimal 1 6 = 4696837146684686336 by decide +kernel]
  norm_num [Width.value, Width.significand, Width.shift, Width.double]

/-- A number that is written by places has no exponent. -/
theorem not_mem_positional (d : Scaled) : 101 ∉ d.positional := by
  obtain ⟨whole, fraction, hpositional, hwhole, -, hfraction, -⟩ := exists_numeralText_positional d
  have hletter : ¬ Text.isDigit 101 = true := by decide
  rw [hpositional]
  rcases fraction with _ | digits
  · simpa [numeralText, fractionText] using fun hmem => hletter (hwhole 101 hmem)
  · simp only [numeralText, fractionText, Bool.false_eq_true, if_false, List.nil_append,
      List.mem_append, List.mem_cons, not_or]
    exact ⟨fun hmem => hletter (hwhole 101 hmem), by decide,
      fun hmem => hletter (hfraction digits rfl 101 hmem)⟩

/-- A positive value is written with an exponent if its leading digit stands outside of the
positional places, unless it is a whole number below the bound of the style. -/
theorem mem_render_iff (style : Style) (x : Binary) :
    101 ∈ x.render style ↔ ¬ x.isWholeBelow style.wholeBelow = true ∧
      ¬ (-4 ≤ x.shortest.magnitude ∧ ¬ 6 ≤ x.shortest.magnitude) := by
  unfold Binary.render
  simp only
  split_ifs with hwhole hplace
  · exact iff_of_false (not_mem_positional _) fun h => h.1 hwhole
  · simp only [Bool.or_eq_true, decide_eq_true_eq] at hplace
    exact iff_of_true (mem_scientific _) ⟨hwhole, by omega⟩
  · simp only [Bool.or_eq_true, decide_eq_true_eq] at hplace
    exact iff_of_false (not_mem_positional _) fun h => h.2 (by omega)

/-- A finite number is written with an exponent exactly if it is not positional. -/
theorem mem_sourceText_iff {n : Float} (hfinite : n.isFinite = true) :
    101 ∈ sourceText n ↔ ¬ IsPositional n := by
  have hsign : ∀ negative : Bool, 101 ∉ (if negative then [45] else [] : Text) := by decide
  rw [isFinite_iff, ← Width.infinite_double] at hfinite
  rw [sourceText_eq, renderFields_double hfinite, List.mem_append, or_iff_right (hsign _),
    IsPositional, absolute_least, ← value_million, absolute]
  generalize n.toBits.toNat % 2 ^ 63 = bits at *
  split_ifs with hzero
  · subst hzero
    have hvalue : Width.double.value 0 = (0 : ℕ) := by simp [Width.value, Width.significand]
    exact iff_of_false (by decide) fun h => h (Or.inl ⟨0, by norm_num, hvalue⟩)
  · have hpos : 0 < bits := Nat.pos_of_ne_zero hzero
    rw [mem_render_iff, Binary.isWholeBelow_iff, ← Width.value_double, ← shortestOf,
      magnitude_shortestOf_iff hpos hfinite, Width.value_double_strictMono.le_iff_le,
      Width.value_double_strictMono.lt_iff_lt, not_or]
    rfl

/-! ### Scientific notation -/

/-- A decimal in scientific notation is a numeral with an exponent behind it. The numeral has the
value of the decimal, moved by the exponent. -/
theorem exists_numeralText_scientific (d : Scaled) :
    ∃ whole fraction, d.scientific =
        numeralText false whole fraction ++ (text "e" ++ exponentText d.magnitude) ∧
      AllDigits whole ∧ whole ≠ [] ∧ (∀ digits ∈ fraction, AllDigits digits) ∧
      numeralValue whole fraction * 10 ^ d.magnitude = d.digits * 10 ^ d.exponent := by
  have hdigits := allDigits_ofNat d.digits
  have hvalue := digitsValue_ofNat d.digits
  obtain ⟨first, tail, hsplit⟩ := List.exists_cons_of_ne_nil (ofNat_ne_nil d.digits)
  have hfirst : AllDigits [first] := .singleton (hdigits first (by simp [hsplit]))
  have htail : AllDigits tail := fun b hb => hdigits b (by simp [hsplit, hb])
  have hmoved : (10 : ℚ) ^ (-(tail.length : Int)) * 10 ^ d.magnitude = 10 ^ d.exponent := by
    rw [← zpow_add₀ (by norm_num), Scaled.magnitude, hsplit, List.length_cons]
    congr 1
    push_cast
    ring
  simp only [Scaled.scientific, hsplit, List.take_succ_cons, List.take_zero, List.drop_succ_cons,
    List.drop_zero, List.isEmpty_iff]
  rw [hsplit] at hvalue
  split_ifs with hnone
  · refine ⟨[first], none, by simp [numeralText, fractionText], hfirst, by simp, by simp, ?_⟩
    rw [← hmoved, ← hvalue, hnone, numeralValue, mul_assoc]
    rfl
  · have hpoint : text "." = [46] := rfl
    refine ⟨[first], some tail, by simp [numeralText, fractionText, hpoint], hfirst, by simp,
      by simpa using htail, ?_⟩
    rw [← hmoved, ← hvalue, numeralValue, mul_assoc]
    rfl

/-- The numeral of a decimal in scientific notation has one digit before the point. -/
theorem one_le_and_lt_ten {d : Scaled} (hd : 0 < d.digits) {q : ℚ}
    (hq : q * 10 ^ d.magnitude = d.digits * 10 ^ d.exponent) : 1 ≤ q ∧ q < 10 := by
  have hunit : (0 : ℚ) < 10 ^ d.magnitude := by positivity
  have hlow := (Scaled.le_magnitude_iff hd d.magnitude).mp le_rfl
  have hhigh := mt (Scaled.le_magnitude_iff hd (d.magnitude + 1)).mpr (by omega)
  rw [← hq] at hlow hhigh
  rw [zpow_add_one₀ (by norm_num), not_le, mul_comm (10 ^ d.magnitude)] at hhigh
  exact ⟨le_of_mul_le_mul_right (by rwa [one_mul]) hunit, lt_of_mul_lt_mul_right hhigh hunit.le⟩

/-- Decimals below ten do not overflow. -/
theorem nearestDecimal_lt_of_lt_ten {digits : Nat} {exponent : Int}
    (hten : (digits * 10 ^ exponent : ℚ) < 10) :
    Width.double.nearestDecimal digits exponent < Width.double.infinite :=
  calc Width.double.nearestDecimal digits exponent ≤ Width.double.nearestDecimal 10 0 :=
        Width.nearestDecimal_double_mono (by simpa using hten.le)
    _ < Width.double.infinite := by decide +kernel

/-- A value that is written with an exponent lies apart from the values from one to ten. -/
theorem nearestDecimal_ne_of_magnitude {bits digits : Nat} {exponent : Int} (hpos : 0 < bits)
    (hfinite : bits < Width.double.infinite)
    (hplace : ¬ (-4 ≤ (shortestOf bits).magnitude ∧ ¬ 6 ≤ (shortestOf bits).magnitude))
    (hone : (1 : ℚ) ≤ digits * 10 ^ exponent) (hten : (digits * 10 ^ exponent : ℚ) < 10) :
    Width.double.nearestDecimal digits exponent ≠ bits := by
  have hleast : Width.double.nearestDecimal 1 0 ≤ Width.double.nearestDecimal digits exponent :=
    Width.nearestDecimal_double_mono (by simpa using hone)
  have hmost : Width.double.nearestDecimal digits exponent ≤ Width.double.nearestDecimal 10 0 :=
    Width.nearestDecimal_double_mono (by simpa using hten.le)
  have hsmall : Width.double.nearestDecimal 1 (-4) < Width.double.nearestDecimal 1 0 := by
    decide +kernel
  have hlarge : Width.double.nearestDecimal 10 0 < Width.double.nearestDecimal 1 6 := by
    decide +kernel
  rw [magnitude_shortestOf_iff hpos hfinite] at hplace
  omega

/-- A number that is written with an exponent is written in scientific form. -/
theorem render_eq_scientific {style : Style} {x : Binary} (h : 101 ∈ x.render style) :
    x.render style = x.shortest.scientific := by
  unfold Binary.render at h ⊢
  simp only at h ⊢
  split_ifs at h ⊢
  · exact absurd h (not_mem_positional _)
  · rfl
  · exact absurd h (not_mem_positional _)

/-- The text of a finite number that is written with an exponent is a numeral with that exponent
behind it. The numeral denotes another number. -/
theorem exists_exponent_sourceText {n : Float} (hfinite : n.isFinite = true)
    (hexponent : 101 ∈ sourceText n) :
    ∃ negative whole fraction e m,
      sourceText n = numeralText negative whole fraction ++ (text "e" ++ exponentText e) ∧
      AllDigits whole ∧ whole ≠ [] ∧ (∀ digits ∈ fraction, AllDigits digits) ∧
      parse? (numeralText negative whole fraction) = some m ∧ m.isInf = false ∧ m ≠ n := by
  have hsign : ∀ negative : Bool, 101 ∉ (if negative then [45] else [] : Text) := by decide
  have hbits := toBits_eq_signed n
  rw [isFinite_iff, ← Width.infinite_double] at hfinite
  rw [sourceText_eq, renderFields_double hfinite] at hexponent ⊢
  generalize decide (2 ^ 63 ≤ n.toBits.toNat) = negative at *
  generalize n.toBits.toNat % 2 ^ 63 = bits at *
  rw [List.mem_append, or_iff_right (hsign negative)] at hexponent
  have hpos : 0 < bits := by
    rw [Nat.pos_iff_ne_zero]
    rintro rfl
    exact absurd hexponent (by decide)
  rw [if_neg hpos.ne'] at hexponent ⊢
  obtain ⟨whole, fraction, hscientific, hwhole, hne, hfraction, hvalue⟩ :=
    exists_numeralText_scientific (shortestOf bits)
  obtain ⟨hone, hten⟩ := one_le_and_lt_ten (digits_shortestOf_pos hpos hfinite) hvalue
  have hapart := nearestDecimal_ne_of_magnitude hpos hfinite ((mem_render_iff _ _).mp hexponent).2
    hone hten
  refine ⟨negative, whole, fraction, (shortestOf bits).magnitude, _, ?_, hwhole, hne, hfraction,
    parse?_numeralText hwhole hfraction (Or.inl hne) negative, ?_, ?_⟩
  · rw [render_eq_scientific hexponent, ← shortestOf, hscientific]
    simp [numeralText]
  · rw [← Bool.not_eq_true, isInf_nearest_iff]
    exact (nearestDecimal_lt_of_lt_ten hten).ne
  · rintro rfl
    rw [toNat_toBits_nearest, Width.signed, Width.signed] at hbits
    split_ifs at hbits <;> omega

end Lisplet.Decimal
