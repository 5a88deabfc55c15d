import Lisplet.Proofs.Decimal.Bits

/-!
# Rounding to the nearest value

The values of a format are ordered like their bits, and two neighbours meet at a midpoint. A
rational number is rounded to bits that are at most `bits` exactly if it lies below the midpoint
above `bits`, or on it where the significand is even. This settles rounding completely: it is
monotone, it depends on the rational number only, and the numbers that are rounded to one value
form an interval.
-/

namespace Lisplet.Decimal

/-- Rounding a quotient is decided by the midpoints between whole numbers. -/
theorem roundedQuotient_le_iff {n d m : Nat} (hd : 0 < d) :
    roundedQuotient n d ≤ m ↔
      2 * n < (2 * m + 1) * d ∨ (2 * n = (2 * m + 1) * d ∧ m % 2 = 0) := by
  have hsplit : d * (n / d) + n % d = n := Nat.div_add_mod n d
  have hrest : n % d < d := Nat.mod_lt n hd
  unfold roundedQuotient
  generalize n / d = quotient at *
  generalize n % d = rest at *
  have hodd : (2 * m + 1) * d = 2 * (d * m) + d := by ring
  rw [hodd]
  simp only [Bool.or_eq_true, Bool.and_eq_true, decide_eq_true_eq, beq_iff_eq]
  rcases Nat.lt_trichotomy quotient m with hlt | rfl | hgt
  · have hstep : d * quotient + d ≤ d * m := by
      rw [← Nat.mul_succ]
      exact Nat.mul_le_mul_left d hlt
    refine iff_of_true ?_ (Or.inl (by omega))
    split_ifs <;> omega
  · split_ifs with hdown <;> omega
  · have hstep : d * m + d ≤ d * quotient := by
      rw [← Nat.mul_succ]
      exact Nat.mul_le_mul_left d hgt
    refine iff_of_false ?_ (by omega)
    split_ifs <;> omega

/-- An integer power as a quotient of natural powers. -/
theorem zpow_eq_div {b : ℚ} (hb : b ≠ 0) (e : Int) : b ^ e = b ^ e.toNat / b ^ (-e).toNat := by
  rw [← zpow_natCast, ← zpow_natCast, ← zpow_sub₀ hb]
  congr 1
  omega

/-- A quotient of numbers against an integer power of two, in natural numbers. -/
theorem zpow_le_div_iff {n d : Nat} (hd : 0 < d) (e : Int) :
    (2 : ℚ) ^ e ≤ n / d ↔ d * 2 ^ e.toNat ≤ n * 2 ^ (-e).toNat := by
  have hd' : (0 : ℚ) < d := by exact_mod_cast hd
  rw [zpow_eq_div two_ne_zero, div_le_div_iff₀ (by positivity) hd', mul_comm]
  exact_mod_cast Iff.rfl

/-- The binary magnitude is the exponent of the leading bit. -/
theorem binaryMagnitude_spec {n d : Nat} (hn : 0 < n) (hd : 0 < d) :
    (2 : ℚ) ^ binaryMagnitude n d ≤ n / d ∧ (n / d : ℚ) < 2 ^ (binaryMagnitude n d + 1) := by
  have hd' : (0 : ℚ) < d := by exact_mod_cast hd
  have hnlow : (2 : ℚ) ^ (n.log2 : Int) ≤ n := by
    rw [zpow_natCast]
    exact_mod_cast Nat.log2_self_le hn.ne'
  have hnhigh : (n : ℚ) < 2 ^ ((n.log2 : Int) + 1) := by
    exact_mod_cast Nat.lt_log2_self
  have hdlow : (2 : ℚ) ^ (d.log2 : Int) ≤ d := by
    rw [zpow_natCast]
    exact_mod_cast Nat.log2_self_le hd.ne'
  have hdhigh : (d : ℚ) < 2 ^ ((d.log2 : Int) + 1) := by
    exact_mod_cast Nat.lt_log2_self
  unfold binaryMagnitude
  simp only [Nat.pow_eq, ← zpow_le_div_iff hd]
  split_ifs with hle
  · refine ⟨hle, ?_⟩
    rw [div_lt_iff₀ hd']
    calc (n : ℚ) < 2 ^ ((n.log2 : Int) + 1) := hnhigh
      _ = 2 ^ ((n.log2 : Int) - d.log2 + 1) * 2 ^ (d.log2 : Int) := by
        rw [← zpow_add₀ two_ne_zero]
        congr 1
        ring
      _ ≤ 2 ^ ((n.log2 : Int) - d.log2 + 1) * d := by gcongr
  · refine ⟨?_, by simpa using hle⟩
    rw [le_div_iff₀ hd']
    calc (2 : ℚ) ^ ((n.log2 : Int) - d.log2 - 1) * d
        ≤ 2 ^ ((n.log2 : Int) - d.log2 - 1) * 2 ^ ((d.log2 : Int) + 1) := by gcongr
      _ = 2 ^ (n.log2 : Int) := by
        rw [← zpow_add₀ two_ne_zero]
        congr 1
        ring
      _ ≤ n := hnlow

namespace Width

variable (w : Width)

/-- By how many powers of two the last place of the value with given bits is above the least. -/
def shift (bits : Nat) : Nat := bits / 2 ^ w.fractionBits - 1

/-- The significand of the value with given bits, as a whole number. -/
def significand (bits : Nat) : Nat := bits - w.shift bits * 2 ^ w.fractionBits

/-- The midpoint between the value with given bits and the next one. -/
def midpoint (bits : Nat) : ℚ :=
  (w.significand bits + 1 / 2) * 2 ^ (w.leastExponent + w.shift bits)

/-- A number that is rounded to given bits or lower ones. -/
def RoundsWithin (q : ℚ) (bits : Nat) : Prop :=
  q < w.midpoint bits ∨ q = w.midpoint bits ∧ w.significand bits % 2 = 0

variable {w}

/-- Rounding is monotone. -/
theorem RoundsWithin.mono {q q' : ℚ} {bits : Nat} (h : w.RoundsWithin q' bits) (hle : q ≤ q') :
    w.RoundsWithin q bits := by
  rcases h with hlt | ⟨rfl, heven⟩
  · exact Or.inl (hle.trans_lt hlt)
  · rcases hle.lt_or_eq with hlt | heq
    · exact Or.inl hlt
    · exact Or.inr ⟨heq, heven⟩

/-- The middle between a number and the next is positive. -/
theorem midpoint_pos (bits : Nat) : 0 < w.midpoint bits := by
  unfold midpoint
  positivity

/-- The bits of a value are its shift and its significand. -/
theorem shift_mul_add_significand (bits : Nat) :
    w.shift bits * 2 ^ w.fractionBits + w.significand bits = bits := by
  have hle : w.shift bits * 2 ^ w.fractionBits ≤ bits :=
    (Nat.mul_le_mul_right _ (Nat.sub_le _ _)).trans (Nat.div_mul_le_self _ _)
  unfold significand
  omega

/-- A significand has at most one bit more than a fraction. -/
theorem significand_lt (bits : Nat) : w.significand bits < 2 * 2 ^ w.fractionBits := by
  have hpos : 0 < 2 ^ w.fractionBits := Nat.two_pow_pos _
  have hsplit := Nat.div_add_mod bits (2 ^ w.fractionBits)
  have hrest := Nat.mod_lt bits hpos
  unfold significand shift
  rcases Nat.eq_zero_or_pos (bits / 2 ^ w.fractionBits) with hzero | hfield
  · rw [hzero] at hsplit ⊢
    omega
  · rw [Nat.sub_mul, Nat.mul_comm]
    have := Nat.le_mul_of_pos_right (2 ^ w.fractionBits) hfield
    omega

/-- Values above the least ones have a leading bit. -/
theorem le_significand {bits : Nat} (hshift : 0 < w.shift bits) :
    2 ^ w.fractionBits ≤ w.significand bits := by
  have hsplit := Nat.div_mul_le_self bits (2 ^ w.fractionBits)
  unfold shift at hshift
  unfold significand shift
  rw [Nat.sub_mul]
  have := Nat.le_mul_of_pos_left (2 ^ w.fractionBits) (show 0 < bits / 2 ^ w.fractionBits by omega)
  omega

/-- A quotient that is rounded at a place, against the midpoints of that place. -/
theorem roundedQuotient_place_le_iff {n d : Nat} (hd : 0 < d) (place : Int) (m : Nat) :
    roundedQuotient (n * 2 ^ (-place).toNat) (d * 2 ^ place.toNat) ≤ m ↔
      (n / d : ℚ) < (m + 1 / 2) * 2 ^ place ∨
        (n / d : ℚ) = (m + 1 / 2) * 2 ^ place ∧ m % 2 = 0 := by
  have hd' : (0 : ℚ) < d := by exact_mod_cast hd
  have hmiddle : (m + 1 / 2 : ℚ) * 2 ^ place =
      (2 * m + 1) * 2 ^ place.toNat / (2 * 2 ^ (-place).toNat) := by
    rw [zpow_eq_div two_ne_zero]
    field_simp
  have hlt : (n / d : ℚ) < (m + 1 / 2) * 2 ^ place ↔
      2 * (n * 2 ^ (-place).toNat) < (2 * m + 1) * (d * 2 ^ place.toNat) := by
    rw [hmiddle, div_lt_div_iff₀ hd' (by positivity), ← Nat.cast_lt (α := ℚ)]
    push_cast
    ring_nf
  have heq : (n / d : ℚ) = (m + 1 / 2) * 2 ^ place ↔
      2 * (n * 2 ^ (-place).toNat) = (2 * m + 1) * (d * 2 ^ place.toNat) := by
    rw [hmiddle, div_eq_div_iff hd'.ne' (by positivity), ← Nat.cast_inj (R := ℚ)]
    push_cast
    ring_nf
  rw [roundedQuotient_le_iff (by positivity), hlt, heq]

/-- The last place leaves room for the leading bit of the number. -/
theorem lt_of_lastPlace {n d : Nat} (hn : 0 < n) (hd : 0 < d) :
    (n / d : ℚ) < 2 ^ (w.lastPlace n d + w.fractionBits + 1) := by
  refine (binaryMagnitude_spec hn hd).2.trans_le (zpow_le_zpow_right₀ one_le_two ?_)
  unfold lastPlace
  omega

/-- A last place above the least one is that of a full significand. -/
theorem le_of_lastPlace {n d : Nat} (hn : 0 < n) (hd : 0 < d)
    (hplace : w.leastExponent < w.lastPlace n d) :
    (2 : ℚ) ^ (w.lastPlace n d + w.fractionBits) ≤ n / d := by
  refine (zpow_le_zpow_right₀ one_le_two ?_).trans (binaryMagnitude_spec hn hd).1
  unfold lastPlace at hplace ⊢
  omega

/-- A midpoint below a power of two, at any place. -/
theorem half_lt_zpow {m bits : Nat} (h : m < 2 ^ bits) (place : Int) :
    (m + 1 / 2 : ℚ) * 2 ^ place < 2 ^ (place + bits) := by
  have hm : (m : ℚ) + 1 ≤ 2 ^ bits := by exact_mod_cast h
  have hplace : (0 : ℚ) < 2 ^ place := by positivity
  rw [zpow_add₀ two_ne_zero, zpow_natCast, mul_comm]
  exact mul_lt_mul_of_pos_left (by linarith) hplace

/-- A midpoint above a power of two, at any place. -/
theorem zpow_lt_half {m bits : Nat} (h : 2 ^ bits ≤ m) (place : Int) :
    (2 : ℚ) ^ (place + bits) < (m + 1 / 2) * 2 ^ place := by
  have hm : (2 : ℚ) ^ bits ≤ m := by exact_mod_cast h
  have hplace : (0 : ℚ) < 2 ^ place := by positivity
  rw [zpow_add₀ two_ne_zero, zpow_natCast, mul_comm]
  exact mul_lt_mul_of_pos_right (by linarith) hplace

/-- Rounding a number gives bits up to `bits` exactly if the number lies below the midpoint above
`bits`. -/
theorem nearest_le_iff {n d bits : Nat} (hn : 0 < n) (hd : 0 < d) (hbits : bits < w.infinite) :
    w.nearest n d ≤ bits ↔ w.RoundsWithin (n / d) bits := by
  obtain ⟨shift, hshift⟩ : ∃ shift : Nat, w.lastPlace n d = w.leastExponent + shift :=
    ⟨(w.lastPlace n d - w.leastExponent).toNat, by unfold lastPlace; omega⟩
  have hhigh := lt_of_lastPlace (w := w) hn hd
  have hlow : 0 < shift → (2 : ℚ) ^ (w.lastPlace n d + w.fractionBits) ≤ n / d :=
    fun h => le_of_lastPlace hn hd (by omega)
  have hround := roundedQuotient_place_le_iff (n := n) hd (w.lastPlace n d)
  have hsplit := shift_mul_add_significand (w := w) bits
  have hsignificand := significand_lt (w := w) bits
  have hleading : 0 < w.shift bits → 2 ^ w.fractionBits ≤ w.significand bits := le_significand
  have hnearest : w.nearest n d ≤ bits ↔
      shift * 2 ^ w.fractionBits + roundedQuotient (n * 2 ^ (-w.lastPlace n d).toNat)
        (d * 2 ^ (w.lastPlace n d).toNat) ≤ bits := by
    have hfield : (w.lastPlace n d - w.leastExponent).toNat = shift := by omega
    simp only [nearest, hfield, Nat.pow_eq]
    omega
  rw [hnearest, RoundsWithin, midpoint]
  clear hnearest hbits
  generalize roundedQuotient _ _ = rounded at *
  generalize w.shift bits = shift' at *
  generalize w.significand bits = m at *
  rw [hshift] at hhigh hlow hround
  rcases Nat.lt_trichotomy shift shift' with hlt | rfl | hgt
  · -- The bits lie in a higher binade than the number.
    have hrounded : rounded ≤ 2 ^ (w.fractionBits + 1) := by
      refine (hround _).mpr (Or.inl (hhigh.trans_le ?_))
      rw [add_assoc]
      exact (zpow_lt_half le_rfl _).le
    have hm := hleading (by omega)
    have hfields : (shift + 1) * 2 ^ w.fractionBits ≤ shift' * 2 ^ w.fractionBits :=
      Nat.mul_le_mul_right _ hlt
    refine iff_of_true ?_ (Or.inl (hhigh.trans (lt_of_le_of_lt ?_ (zpow_lt_half hm _))))
    · rw [pow_succ] at hrounded
      rw [Nat.succ_mul] at hfields
      omega
    · exact zpow_le_zpow_right₀ one_le_two (by omega)
  · rw [← hround]
    omega
  · -- The number lies in a higher binade than the bits.
    have hnumber := hlow (by omega)
    have hmidpoint : (m + 1 / 2 : ℚ) * 2 ^ (w.leastExponent + shift') < n / d := by
      rw [← pow_succ'] at hsignificand
      refine (half_lt_zpow hsignificand _).trans_le ?_
      refine (zpow_le_zpow_right₀ one_le_two ?_).trans hnumber
      push_cast
      omega
    have hrounded : 2 ^ w.fractionBits ≤ rounded := by
      by_contra hless
      have hbelow := half_lt_zpow (not_le.mp hless) (w.leastExponent + shift)
      rcases (hround rounded).mp le_rfl with hq | ⟨hq, -⟩ <;> linarith
    have hfields : (shift' + 1) * 2 ^ w.fractionBits ≤ shift * 2 ^ w.fractionBits :=
      Nat.mul_le_mul_right _ hgt
    rw [Nat.succ_mul] at hfields
    refine iff_of_false (by omega) ?_
    rintro (hq | ⟨hq, -⟩) <;> linarith

end Width

/-! ### Decimals -/

/-- Three binary places are not more than one decimal place. -/
theorem two_zpow_le_ten_zpow {e : Int} (he : 0 ≤ e) : (2 : ℚ) ^ (3 * e) ≤ 10 ^ e := by
  obtain ⟨k, rfl⟩ := Int.eq_ofNat_of_zero_le he
  rw [zpow_mul]
  simp only [zpow_natCast]
  gcongr
  norm_num

/-- The same for places behind the point. -/
theorem ten_zpow_le_two_zpow {e : Int} (he : e ≤ 0) : (10 : ℚ) ^ e ≤ 2 ^ (3 * e) := by
  have h := inv_anti₀ (by positivity) (two_zpow_le_ten_zpow (Int.neg_nonneg.mpr he))
  simpa only [← zpow_neg, mul_neg, neg_neg] using h

namespace Width

/-- The bits of infinity in double width. -/
theorem infinite_double : double.infinite = 2047 * 2 ^ 52 := rfl

/-- The bit of the sign in double width. -/
theorem signBit_double : double.signBit = 2 ^ 63 := rfl

/-- The midpoints above the finite numbers end below the next power of two. -/
theorem midpoint_double_lt {bits : Nat} (hbits : bits < double.infinite) :
    double.midpoint bits < 2 ^ (1024 : Int) := by
  have hsignificand := significand_lt (w := double) bits
  rw [← pow_succ'] at hsignificand
  refine (half_lt_zpow hsignificand _).trans_le (zpow_le_zpow_right₀ one_le_two ?_)
  have hshift : double.shift bits ≤ 2045 := by
    rw [infinite_double] at hbits
    simp only [shift, double]
    omega
  simp only [double] at hshift ⊢
  omega

/-- The midpoint above zero is the least. -/
theorem le_midpoint_double (bits : Nat) : (2 : ℚ) ^ (-1075 : Int) ≤ double.midpoint bits := by
  have hhalf : (1 / 2 : ℚ) ≤ double.significand bits + 1 / 2 := by
    have := Nat.cast_nonneg (α := ℚ) (double.significand bits)
    linarith
  calc (2 : ℚ) ^ (-1075 : Int) = 1 / 2 * 2 ^ (-1074 : Int) := by
        rw [show (-1075 : Int) = -1 + -1074 from rfl, zpow_add₀ two_ne_zero]
        norm_num
    _ ≤ (double.significand bits + 1 / 2) * 2 ^ (double.leastExponent + double.shift bits) := by
        gcongr
        · exact one_le_two
        · simp [double]

/-- Decimals are rounded as the rational numbers that they stand for. -/
theorem nearestDecimal_double_le_iff {bits : Nat} (hbits : bits < double.infinite) (digits : Nat)
    (exponent : Int) :
    double.nearestDecimal digits exponent ≤ bits ↔
      double.RoundsWithin (digits * 10 ^ exponent) bits := by
  unfold nearestDecimal
  simp only [beq_iff_eq, Nat.pow_eq]
  split_ifs with hzero hlarge hsmall
  · subst hzero
    exact iff_of_true (Nat.zero_le _) (Or.inl (by simpa using midpoint_pos bits))
  · have hone : (1 : ℚ) ≤ digits := by exact_mod_cast Nat.pos_of_ne_zero hzero
    have hvalue : double.midpoint bits < digits * 10 ^ exponent :=
      calc double.midpoint bits < 2 ^ (1024 : Int) := midpoint_double_lt hbits
        _ ≤ 2 ^ (3 * exponent) := zpow_le_zpow_right₀ one_le_two (by omega)
        _ ≤ 10 ^ exponent := two_zpow_le_ten_zpow (by omega)
        _ ≤ digits * 10 ^ exponent := le_mul_of_one_le_left (by positivity) hone
    refine iff_of_false (by omega) ?_
    rintro (hq | ⟨hq, -⟩) <;> linarith
  · have hdigits : (digits : ℚ) ≤ 2 ^ ((digits.log2 : Int) + 1) := by
      exact_mod_cast Nat.lt_log2_self.le
    refine iff_of_true (Nat.zero_le _) (Or.inl ?_)
    calc (digits * 10 ^ exponent : ℚ)
        ≤ 2 ^ ((digits.log2 : Int) + 1) * 2 ^ (3 * exponent) := by
          gcongr
          exact ten_zpow_le_two_zpow (by omega)
      _ = 2 ^ ((digits.log2 : Int) + 1 + 3 * exponent) := (zpow_add₀ two_ne_zero _ _).symm
      _ < 2 ^ (-1075 : Int) := zpow_lt_zpow_right₀ one_lt_two (by omega)
      _ ≤ double.midpoint bits := le_midpoint_double bits
  · have hvalue : (digits * 10 ^ exponent : ℚ) =
        (digits * 10 ^ exponent.toNat : Nat) / (10 ^ (-exponent).toNat : Nat) := by
      rw [zpow_eq_div (by norm_num)]
      push_cast
      ring
    rw [hvalue, nearest_le_iff (by positivity) (by positivity) hbits]

/-- No decimal is rounded to bits beyond infinity. -/
theorem nearestDecimal_double_le (digits : Nat) (exponent : Int) :
    double.nearestDecimal digits exponent ≤ double.infinite := by
  unfold nearestDecimal
  split_ifs
  · exact Nat.zero_le _
  · exact le_rfl
  · exact Nat.zero_le _
  · exact Nat.min_le_left _ _

/-- Larger decimals are not rounded to smaller values. -/
theorem nearestDecimal_double_mono {digits digits' : Nat} {exponent exponent' : Int}
    (h : (digits * 10 ^ exponent : ℚ) ≤ digits' * 10 ^ exponent') :
    double.nearestDecimal digits exponent ≤ double.nearestDecimal digits' exponent' := by
  have hle := nearestDecimal_double_le digits exponent
  rcases (nearestDecimal_double_le digits' exponent').lt_or_eq with hlt | heq
  · rw [nearestDecimal_double_le_iff hlt]
    exact ((nearestDecimal_double_le_iff hlt _ _).mp le_rfl).mono h
  · rwa [heq]

/-- A decimal between two neighbouring midpoints is rounded to the value between them. -/
theorem nearestDecimal_double_eq {digits bits : Nat} {exponent : Int}
    (hbits : bits + 1 < double.infinite)
    (hbelow : ¬ double.RoundsWithin (digits * 10 ^ exponent) bits)
    (hwithin : double.RoundsWithin (digits * 10 ^ exponent) (bits + 1)) :
    double.nearestDecimal digits exponent = bits + 1 := by
  rw [← nearestDecimal_double_le_iff (by omega)] at hbelow hwithin
  omega

end Width

/-- The bits of the number nearest to a decimal. -/
theorem toNat_toBits_nearest (negative : Bool) (digits : Nat) (exponent : Int) :
    (nearest negative digits exponent).toBits.toNat =
      Width.double.signed negative (Width.double.nearestDecimal digits exponent) := by
  have hle := Width.nearestDecimal_double_le digits exponent
  unfold nearest
  generalize Width.double.nearestDecimal digits exponent = bits at *
  rw [Width.infinite_double] at hle
  have hsigned : Width.double.signed negative bits < 2 ^ 64 ∧
      Width.double.signed negative bits % 2 ^ 63 = bits := by
    rw [Width.signed, Width.signBit_double]
    split_ifs <;> omega
  rw [toBits_ofBits]
  · rw [UInt64.toNat_ofNat', Nat.mod_eq_of_lt hsigned.1]
  · rw [UInt64.toNat_ofNat', Nat.mod_eq_of_lt hsigned.1, hsigned.2]
    omega

/-- A decimal overflows if the bits of the value nearest to it are those of the infinities. -/
theorem isInf_nearest_iff (negative : Bool) (digits : Nat) (exponent : Int) :
    (nearest negative digits exponent).isInf = true ↔
      Width.double.nearestDecimal digits exponent = Width.double.infinite := by
  have hle := Width.nearestDecimal_double_le digits exponent
  rw [isInf_iff, toNat_toBits_nearest]
  generalize Width.double.nearestDecimal digits exponent = bits at *
  rw [Width.infinite_double] at hle ⊢
  rw [Width.signed, Width.signBit_double]
  split_ifs <;> omega

/-- A decimal above one that overflows overflows. -/
theorem isInf_nearest_of_le {negative : Bool} {digits digits' : Nat} {exponent exponent' : Int}
    (hinf : (nearest negative digits exponent).isInf = true)
    (h : (digits * 10 ^ exponent : ℚ) ≤ digits' * 10 ^ exponent') :
    (nearest negative digits' exponent').isInf = true := by
  rw [isInf_nearest_iff] at hinf ⊢
  have hmono := Width.nearestDecimal_double_mono h
  have hle := Width.nearestDecimal_double_le digits' exponent'
  omega

end Lisplet.Decimal
