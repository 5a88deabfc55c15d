import Lisplet.Proofs.Decimal.Rounding

/-!
# Numerals without an exponent

A numeral without an exponent is a sign, digits, and possibly a point with further digits. Its parts
are read as they are written. Further digits do not make its absolute value smaller, so that a
numeral beyond the range stays beyond it however it goes on.
-/

namespace Lisplet.Decimal

/-- A text that consists of digits. -/
def AllDigits (t : Text) : Prop := ∀ b ∈ t, Text.isDigit b = true

/-- Digits behind digits are digits. -/
theorem AllDigits.append {s t : Text} (hs : AllDigits s) (ht : AllDigits t) :
    AllDigits (s ++ t) := by
  intro b hb
  rcases List.mem_append.mp hb with hb | hb
  · exact hs b hb
  · exact ht b hb

/-- A digit alone is a text of digits. -/
theorem AllDigits.singleton {b : UInt8} (hb : Text.isDigit b = true) : AllDigits [b] := by
  simpa [AllDigits] using hb

/-- The text of a point and the digits behind it. -/
def fractionText : Option Text → Text
  | none => []
  | some digits => 46 :: digits

/-- The text of a numeral without an exponent. -/
def numeralText (negative : Bool) (whole : Text) (fraction : Option Text) : Text :=
  (if negative then [45] else []) ++ (whole ++ fractionText fraction)

/-- A byte that is a digit is neither a sign nor a point. -/
theorem ne_of_isDigit {b : UInt8} (hb : Text.isDigit b = true) : b ≠ 45 ∧ b ≠ 43 ∧ b ≠ 46 := by
  refine ⟨?_, ?_, ?_⟩ <;> (rintro rfl; exact absurd hb (by decide))

/-- Digits reach up to the point. -/
theorem takeWhile_whole {whole : Text} (hwhole : AllDigits whole) (fraction : Option Text) :
    (whole ++ fractionText fraction).takeWhile Text.isDigit = whole ∧
      (whole ++ fractionText fraction).dropWhile Text.isDigit = fractionText fraction := by
  rw [List.takeWhile_append_of_pos hwhole, List.dropWhile_append_of_pos hwhole]
  cases fraction with
  | none => simp [fractionText]
  | some digits => simp [fractionText, show Text.isDigit 46 = false from by decide]

/-- The sign of a numeral is told by its first byte. -/
theorem splitSign_numeralText {whole : Text} (hwhole : AllDigits whole) (negative : Bool)
    (fraction : Option Text) :
    splitSign (numeralText negative whole fraction) =
      (negative, whole ++ fractionText fraction) := by
  cases negative with
  | true => rfl
  | false =>
    rcases whole with _ | ⟨b, whole⟩
    · cases fraction <;> rfl
    · obtain ⟨hminus, hplus, -⟩ := ne_of_isDigit (hwhole b (by simp))
      simp only [numeralText, Bool.false_eq_true, if_false, List.nil_append, List.cons_append]
      unfold splitSign
      split <;> simp_all

/-- A point is followed by its digits only. -/
theorem splitFraction_fractionText {fraction : Option Text}
    (hfraction : ∀ digits ∈ fraction, AllDigits digits) :
    splitFraction (fractionText fraction) = (fraction, []) := by
  cases fraction with
  | none => rfl
  | some digits =>
    have hdigits : AllDigits digits := hfraction digits rfl
    have htaken : digits.takeWhile Text.isDigit = digits := List.takeWhile_eq_self_iff.mpr hdigits
    have hleft : digits.dropWhile Text.isDigit = [] := List.dropWhile_eq_nil_iff.mpr hdigits
    simp only [fractionText, splitFraction, htaken, hleft]

/-- A numeral without an exponent is read as its parts. -/
theorem parseNumeral?_numeralText {whole : Text} {fraction : Option Text}
    (hwhole : AllDigits whole) (hfraction : ∀ digits ∈ fraction, AllDigits digits)
    (hsome : whole ≠ [] ∨ fraction.getD [] ≠ []) (negative : Bool) :
    parseNumeral? (numeralText negative whole fraction) =
      some ⟨negative, whole, fraction, none⟩ := by
  obtain ⟨htake, hdrop⟩ := takeWhile_whole hwhole fraction
  have hnonempty : ¬ (whole.isEmpty && (fraction.getD []).isEmpty) = true := by
    simp only [Bool.and_eq_true, List.isEmpty_iff]
    tauto
  simp only [parseNumeral?, splitSign_numeralText hwhole, htake, hdrop,
    splitFraction_fractionText hfraction, if_neg hnonempty, parseExponent?, Option.map_some]

/-- A numeral without an exponent denotes its digits, moved by the point. -/
theorem parse?_numeralText {whole : Text} {fraction : Option Text}
    (hwhole : AllDigits whole) (hfraction : ∀ digits ∈ fraction, AllDigits digits)
    (hsome : whole ≠ [] ∨ fraction.getD [] ≠ []) (negative : Bool) :
    parse? (numeralText negative whole fraction) =
      some (nearest negative (Text.digitsValue (whole ++ fraction.getD []))
        (-((fraction.getD []).length : Int))) := by
  rw [parse?, parseNumeral?_numeralText hwhole hfraction hsome, Option.map_some]
  simp [Numeral.value, Numeral.digits, Numeral.power]

/-! ### Digits -/

/-- Digits in front of other digits count by the place of the last of them. -/
theorem foldl_digits (start : Nat) (t : Text) :
    t.foldl (fun n b => 10 * n + (b.toNat - 48)) start =
      start * 10 ^ t.length + Text.digitsValue t := by
  induction t generalizing start with
  | nil => simp [Text.digitsValue]
  | cons b t ih =>
    rw [Text.digitsValue, List.foldl_cons, List.foldl_cons, ih, ih (10 * 0 + (b.toNat - 48)),
      List.length_cons, pow_succ]
    ring

/-- Digits behind others move those to higher places. -/
theorem digitsValue_append (s t : Text) :
    Text.digitsValue (s ++ t) = Text.digitsValue s * 10 ^ t.length + Text.digitsValue t := by
  rw [Text.digitsValue, List.foldl_append, foldl_digits]
  rfl

/-- The absolute value of a numeral. -/
def numeralValue (whole : Text) (fraction : Option Text) : ℚ :=
  Text.digitsValue (whole ++ fraction.getD []) * 10 ^ (-((fraction.getD []).length : Int))

/-- One more digit before the point does not make a numeral smaller. -/
theorem numeralValue_le_whole (whole : Text) (b : UInt8) :
    numeralValue whole none ≤ numeralValue (whole ++ [b]) none := by
  have hle : Text.digitsValue whole ≤ Text.digitsValue (whole ++ [b]) := by
    rw [digitsValue_append]
    simp only [List.length_singleton, pow_one]
    omega
  simpa [numeralValue] using hle

/-- One more digit behind the point does not make a numeral smaller. -/
theorem numeralValue_le_fraction (whole digits : Text) (b : UInt8) :
    numeralValue whole (some digits) ≤ numeralValue whole (some (digits ++ [b])) := by
  have hle : Text.digitsValue (whole ++ digits) * 10 ≤
      Text.digitsValue (whole ++ (digits ++ [b])) := by
    rw [← List.append_assoc, digitsValue_append (whole ++ digits)]
    simp
  have hle' : (Text.digitsValue (whole ++ digits) * 10 : ℚ) ≤
      Text.digitsValue (whole ++ (digits ++ [b])) := by exact_mod_cast hle
  simp only [numeralValue, Option.getD_some, List.length_append, List.length_singleton]
  calc (Text.digitsValue (whole ++ digits) * 10 ^ (-(digits.length : Int)) : ℚ)
      = Text.digitsValue (whole ++ digits) * 10 * 10 ^ (-((digits.length + 1 : Nat) : Int)) := by
        rw [mul_assoc, ← zpow_one_add₀ (by norm_num)]
        congr 2
        push_cast
        ring
    _ ≤ Text.digitsValue (whole ++ (digits ++ [b])) *
          10 ^ (-((digits.length + 1 : Nat) : Int)) := by
        gcongr

/-- A numeral that goes on with digits, and with a point if it has none yet, is a numeral that is
not smaller. -/
theorem numeralText_append {more : Text} (hmore : ∀ b ∈ more, Text.isDigit b = true ∨ b = 46)
    (negative : Bool) {whole : Text} {fraction : Option Text} (hwhole : AllDigits whole)
    (hfraction : ∀ digits ∈ fraction, AllDigits digits)
    (hpoints : more.count 46 + (if fraction.isSome then 1 else 0) ≤ 1) :
    ∃ whole' fraction', numeralText negative whole fraction ++ more =
        numeralText negative whole' fraction' ∧
      AllDigits whole' ∧ (∀ digits ∈ fraction', AllDigits digits) ∧
      numeralValue whole fraction ≤ numeralValue whole' fraction' := by
  induction more generalizing whole fraction with
  | nil => exact ⟨whole, fraction, List.append_nil _, hwhole, hfraction, le_rfl⟩
  | cons b more ih =>
    have hrest : ∀ b ∈ more, Text.isDigit b = true ∨ b = 46 := fun c hc => hmore c (by simp [hc])
    rcases hmore b (by simp) with hdigit | rfl
    · have hcount : more.count 46 + (if fraction.isSome then 1 else 0) ≤ 1 := by
        rwa [List.count_cons_of_ne (ne_of_isDigit hdigit).2.2] at hpoints
      cases fraction with
      | none =>
        obtain ⟨whole', fraction', htext, hwhole', hfraction', hle⟩ :=
          ih hrest (hwhole.append (.singleton hdigit)) hfraction hcount
        refine ⟨whole', fraction', ?_, hwhole', hfraction', ?_⟩
        · rw [← htext]
          simp [numeralText, fractionText]
        · exact (numeralValue_le_whole whole b).trans hle
      | some digits =>
        have hlonger : ∀ longer ∈ some (digits ++ [b]), AllDigits longer := by
          simpa using (hfraction digits rfl).append (.singleton hdigit)
        obtain ⟨whole', fraction', htext, hwhole', hfraction', hle⟩ :=
          ih hrest hwhole hlonger hcount
        refine ⟨whole', fraction', ?_, hwhole', hfraction', ?_⟩
        · rw [← htext]
          simp [numeralText, fractionText]
        · exact (numeralValue_le_fraction whole digits b).trans hle
    · rw [List.count_cons_self] at hpoints
      cases fraction with
      | none =>
        have hnone : ∀ digits ∈ some ([] : Text), AllDigits digits := by simp [AllDigits]
        obtain ⟨whole', fraction', htext, hwhole', hfraction', hle⟩ :=
          ih hrest hwhole hnone (by simpa using hpoints)
        refine ⟨whole', fraction', ?_, hwhole', hfraction', ?_⟩
        · rw [← htext]
          simp [numeralText, fractionText]
        · simpa [numeralValue] using hle
      | some digits => simp at hpoints

/-- A numeral that holds a digit has one in one of its parts. -/
theorem parts_ne_nil {negative : Bool} {whole : Text} {fraction : Option Text} {b : UInt8}
    (hmem : b ∈ numeralText negative whole fraction) (hdigit : Text.isDigit b = true) :
    whole ≠ [] ∨ fraction.getD [] ≠ [] := by
  obtain ⟨hminus, -, hpoint⟩ := ne_of_isDigit hdigit
  by_contra hnone
  rw [not_or, not_not, not_not] at hnone
  obtain ⟨rfl, hfraction⟩ := hnone
  rcases fraction with _ | digits
  · cases negative <;> simp_all [numeralText, fractionText]
  · cases negative <;> simp_all [numeralText, fractionText]

/-- There is no point among digits. -/
theorem AllDigits.count_point {t : Text} (ht : AllDigits t) : t.count 46 = 0 :=
  List.count_eq_zero.mpr fun hmem => (ne_of_isDigit (ht 46 hmem)).2.2 rfl

/-- The points of a numeral. -/
theorem count_numeralText (negative : Bool) {whole : Text} {fraction : Option Text}
    (hwhole : AllDigits whole) (hfraction : ∀ digits ∈ fraction, AllDigits digits) :
    (numeralText negative whole fraction).count 46 = if fraction.isSome then 1 else 0 := by
  have hsign : (if negative then [45] else [] : Text).count 46 = 0 := by cases negative <;> rfl
  rw [numeralText, List.count_append, List.count_append, hsign, hwhole.count_point]
  cases fraction with
  | none => rfl
  | some digits => simp [fractionText, (hfraction digits rfl).count_point]

/-- A sign, digits and at most one point make up a numeral, which is read. If it overflows, then it
does so with further digits too. -/
theorem parse?_append (negative : Bool) {run more : Text}
    (hrun : ∀ b ∈ run ++ more, Text.isDigit b = true ∨ b = 46)
    (hdigit : ∃ b ∈ run, Text.isDigit b = true) (hpoints : (run ++ more).count 46 ≤ 1) :
    ∃ n n', parse? ((if negative then [45] else []) ++ run) = some n ∧
      parse? ((if negative then [45] else []) ++ (run ++ more)) = some n' ∧
      (n.isInf = true → n'.isInf = true) := by
  have hnothing : AllDigits [] := by simp [AllDigits]
  have hnone : ∀ digits ∈ (none : Option Text), AllDigits digits := by simp
  rw [List.count_append] at hpoints
  obtain ⟨whole, fraction, htext, hwhole, hfraction, -⟩ :=
    numeralText_append (fun b hb => hrun b (List.mem_append_left more hb)) negative hnothing hnone
      (by simp; omega)
  have hcount := count_numeralText negative hwhole hfraction
  have hsign : (numeralText negative [] none).count 46 = 0 := by cases negative <;> rfl
  rw [← htext, List.count_append, hsign] at hcount
  obtain ⟨whole', fraction', htext', hwhole', hfraction', hle⟩ :=
    numeralText_append (fun b hb => hrun b (List.mem_append_right run hb)) negative hwhole
      hfraction (by omega)
  have hsplit : (if negative then [45] else []) ++ run = numeralText negative whole fraction := by
    rw [← htext]
    simp [numeralText, fractionText]
  have hsplit' : (if negative then [45] else []) ++ (run ++ more) =
      numeralText negative whole' fraction' := by
    rw [← htext', ← hsplit, List.append_assoc]
  obtain ⟨b, hb, hisDigit⟩ := hdigit
  have hmem : b ∈ numeralText negative whole fraction := by
    rw [← hsplit]
    exact List.mem_append_right _ hb
  have hmem' : b ∈ numeralText negative whole' fraction' := by
    rw [← hsplit']
    exact List.mem_append_right _ (List.mem_append_left more hb)
  rw [hsplit, hsplit']
  refine ⟨_, _, parse?_numeralText hwhole hfraction (parts_ne_nil hmem hisDigit) negative,
    parse?_numeralText hwhole' hfraction' (parts_ne_nil hmem' hisDigit) negative, fun hinf => ?_⟩
  exact isInf_nearest_of_le hinf hle

end Lisplet.Decimal
