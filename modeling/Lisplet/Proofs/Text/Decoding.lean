import Lisplet.Text.Rune
import Mathlib

/-!
# Decoding and concatenation

Reading a text as runes loses nothing, and a rune depends only on its own bytes and on at most
three bytes behind it. So the runes of a concatenation are those of its parts, unless the first part
ends inside a character. In that case the bytes of the unfinished character are stray in the first
part, and everything in front of them is decoded as before.
-/

namespace Lisplet

namespace Rune

/-- A byte below 0x80 is a character of its own. -/
theorem leading_ascii {a : UInt8} (ha : a < 0x80) (rest : Text) :
    leading a rest = .char (Char.ofNat a.toNat) := by
  simp [leading, leadingCode?, ha]

/-- More bytes behind a complete form do not change it. -/
theorem leadingCode?_append {a : UInt8} {rest : Text} {n : Nat}
    (hcode : leadingCode? a rest = some n) (more : Text) :
    leadingCode? a (rest ++ more) = some n := by
  unfold leadingCode? at hcode ⊢
  by_cases ha : a < 0x80
  · simpa only [ha, if_true] using hcode
  · rw [if_neg ha] at hcode ⊢
    rcases rest with _ | ⟨b, _ | ⟨c, _ | ⟨d, rest⟩⟩⟩
    · cases hcode
    · rcases more with _ | ⟨x, _ | ⟨y, more⟩⟩ <;> simp_all
    · rcases more with _ | ⟨x, more⟩
      · exact hcode
      · cases hpair : pair? a b <;> simp_all
    · exact hcode

/-- A byte that is no tail ends every form in front of it. -/
theorem leadingCode?_append_of_not_isTail {b : UInt8} (hb : isTail b = false) (a : UInt8)
    (rest more : Text) : leadingCode? a (rest ++ b :: more) = leadingCode? a rest := by
  unfold leadingCode?
  by_cases ha : a < 0x80
  · simp [ha]
  · rcases rest with _ | ⟨c, _ | ⟨d, _ | ⟨e, rest⟩⟩⟩
    · rcases more with _ | ⟨x, _ | ⟨y, more⟩⟩ <;> simp [ha, pair?, triple?, quadruple?, hb]
    · rcases more with _ | ⟨x, more⟩ <;> simp [ha, triple?, quadruple?, hb]
    · simp [ha, quadruple?, hb]
    · simp

/-- A byte that becomes the start of a character only through the bytes `more` is followed by tails
up to them. -/
theorem isTail_of_leadingCode?_append {a : UInt8} {rest more : Text} {n : Nat}
    (hbefore : leadingCode? a rest = none) (hafter : leadingCode? a (rest ++ more) = some n) :
    ∀ b ∈ rest, isTail b = true := by
  intro b hb
  by_contra hnot
  have htail : isTail b = false := by simpa using hnot
  obtain ⟨front, back, rfl⟩ := List.append_of_mem hb
  have hfront := leadingCode?_append_of_not_isTail htail a front
  rw [hfront] at hbefore
  rw [List.append_assoc, List.cons_append, hfront, hbefore] at hafter
  cases hafter

/-- A two-byte form is the encoding of the code point that it stands for. -/
theorem encodeCode_of_pair? {a b : UInt8} {n : Nat} (hcode : pair? a b = some n) :
    n.isValidChar ∧ encodeCode n = [a, b] := by
  simp only [pair?, isTail, Bool.and_eq_true, decide_eq_true_eq, UInt8.le_iff_toNat_le,
    UInt8.reduceToNat, Option.ite_none_right_eq_some, Option.some.injEq] at hcode
  obtain ⟨⟨⟨ha, ha'⟩, hb, hb'⟩, hn⟩ := hcode
  have hfirst : 0xC0 + n / 0x40 = a.toNat := by omega
  have hsecond : 0x80 + n % 0x40 = b.toNat := by omega
  refine ⟨Or.inl (by omega), ?_⟩
  rw [encodeCode, if_neg (by omega), if_pos (by omega), hfirst, hsecond, UInt8.ofNat_toNat,
    UInt8.ofNat_toNat]

/-- A three-byte form is the encoding of the code point that it stands for. -/
theorem encodeCode_of_triple? {a b c : UInt8} {n : Nat} (hcode : triple? a b c = some n) :
    n.isValidChar ∧ encodeCode n = [a, b, c] := by
  simp only [triple?, isTail, Bool.and_eq_true, Bool.not_eq_true', Bool.and_eq_false_iff,
    decide_eq_true_eq, decide_eq_false_iff_not, UInt8.le_iff_toNat_le, UInt8.lt_iff_toNat_lt,
    beq_eq_false_iff_ne, ne_eq, ← UInt8.toNat_inj,
    UInt8.reduceToNat, Option.ite_none_right_eq_some, Option.some.injEq] at hcode
  obtain ⟨⟨⟨⟨⟨⟨ha, ha'⟩, hb, hb'⟩, hc, hc'⟩, hshort⟩, hhalf⟩, hn⟩ := hcode
  have hfirst : 0xE0 + n / 0x1000 = a.toNat := by omega
  have hsecond : 0x80 + n / 0x40 % 0x40 = b.toNat := by omega
  have hthird : 0x80 + n % 0x40 = c.toNat := by omega
  refine ⟨?_, ?_⟩
  · unfold Nat.isValidChar
    omega
  · rw [encodeCode, if_neg (by omega), if_neg (by omega), if_pos (by omega), hfirst, hsecond,
      hthird, UInt8.ofNat_toNat, UInt8.ofNat_toNat, UInt8.ofNat_toNat]

/-- A four-byte form is the encoding of the code point that it stands for. -/
theorem encodeCode_of_quadruple? {a b c d : UInt8} {n : Nat}
    (hcode : quadruple? a b c d = some n) :
    n.isValidChar ∧ encodeCode n = [a, b, c, d] := by
  simp only [quadruple?, isTail, Bool.and_eq_true, Bool.not_eq_true', Bool.and_eq_false_iff,
    decide_eq_true_eq, decide_eq_false_iff_not, UInt8.le_iff_toNat_le, UInt8.lt_iff_toNat_lt,
    beq_eq_false_iff_ne, ne_eq, ← UInt8.toNat_inj,
    UInt8.reduceToNat, Option.ite_none_right_eq_some, Option.some.injEq] at hcode
  obtain ⟨⟨⟨⟨⟨⟨⟨ha, ha'⟩, hb, hb'⟩, hc, hc'⟩, hd, hd'⟩, hshort⟩, hbeyond⟩, hn⟩ := hcode
  have hfirst : 0xF0 + n / 0x40000 = a.toNat := by omega
  have hsecond : 0x80 + n / 0x1000 % 0x40 = b.toNat := by omega
  have hthird : 0x80 + n / 0x40 % 0x40 = c.toNat := by omega
  have hfourth : 0x80 + n % 0x40 = d.toNat := by omega
  refine ⟨Or.inr (by omega), ?_⟩
  rw [encodeCode, if_neg (by omega), if_neg (by omega), if_neg (by omega), hfirst, hsecond,
      hthird, hfourth, UInt8.ofNat_toNat, UInt8.ofNat_toNat, UInt8.ofNat_toNat, UInt8.ofNat_toNat]

/-- The code point of a form is valid, its encoding is the form, and the form alone is enough to
read it. -/
theorem encodeCode_of_leadingCode? {a : UInt8} {rest : Text} {n : Nat}
    (hcode : leadingCode? a rest = some n) :
    n.isValidChar ∧ ∃ tail, encodeCode n = a :: tail ∧ tail <+: rest ∧
      leadingCode? a tail = some n := by
  unfold leadingCode? at hcode ⊢
  split_ifs at hcode ⊢ with ha
  · obtain rfl : a.toNat = n := by simpa using hcode
    have hsmall : a.toNat < 128 := by simpa [UInt8.lt_iff_toNat_lt] using ha
    refine ⟨Or.inl (by omega), [], ?_, List.nil_prefix, rfl⟩
    rw [encodeCode, if_pos hsmall, UInt8.ofNat_toNat]
  · rcases rest with _ | ⟨b, rest⟩
    · cases hcode
    · cases hpair : pair? a b with
      | some m =>
        obtain rfl : m = n := by rcases rest with _ | ⟨c, _ | ⟨d, rest⟩⟩ <;> simp_all
        obtain ⟨hvalid, hbytes⟩ := encodeCode_of_pair? hpair
        exact ⟨hvalid, [b], hbytes, by simp, hpair⟩
      | none =>
        rcases rest with _ | ⟨c, rest⟩
        · simp [hpair] at hcode
        · cases htriple : triple? a b c with
          | some m =>
            obtain rfl : m = n := by rcases rest with _ | ⟨d, rest⟩ <;> simp_all
            obtain ⟨hvalid, hbytes⟩ := encodeCode_of_triple? htriple
            exact ⟨hvalid, [b, c], hbytes, by simp, by simp [hpair, htriple]⟩
          | none =>
            rcases rest with _ | ⟨d, rest⟩
            · simp [hpair, htriple] at hcode
            · have hquadruple : quadruple? a b c d = some n := by
                simpa [hpair, htriple] using hcode
              obtain ⟨hvalid, hbytes⟩ := encodeCode_of_quadruple? hquadruple
              exact ⟨hvalid, [b, c, d], hbytes, by simp, by simp [hpair, htriple, hquadruple]⟩

/-- A byte below 0x80 is the only byte of its character. -/
theorem bytes_ascii {b : UInt8} (hb : b < 0x80) : (char (Char.ofNat b.toNat)).bytes = [b] := by
  have hsmall : b.toNat < 128 := by simpa [UInt8.lt_iff_toNat_lt] using hb
  have hvalid : b.toNat.isValidChar := Or.inl (by omega)
  rw [bytes, Char.toNat_ofNat, if_pos hvalid, encodeCode, if_pos hsmall, UInt8.ofNat_toNat]

/-- A rune with a code below 0x80 is the character of a byte. -/
theorem exists_byte {r : Rune} (hr : r.code < 128) :
    ∃ b : UInt8, b < 0x80 ∧ r = .char (Char.ofNat b.toNat) := by
  cases r with
  | stray b => simp [code, replacement] at hr
  | char c =>
    have hsmall : c.toNat < 128 := hr
    have hbyte : (UInt8.ofNat c.toNat).toNat = c.toNat := by
      rw [UInt8.toNat_ofNat']
      omega
    refine ⟨UInt8.ofNat c.toNat, ?_, ?_⟩
    · rw [UInt8.lt_iff_toNat_lt, hbyte]
      exact hsmall
    · rw [hbyte, Char.ofNat_toNat]

/-- The bytes of the first rune are the first bytes of the text. -/
theorem bytes_leading (a : UInt8) (rest : Text) :
    ∃ tail, (leading a rest).bytes = a :: tail ∧ tail <+: rest := by
  unfold leading
  cases hcode : leadingCode? a rest with
  | none => exact ⟨[], rfl, List.nil_prefix⟩
  | some n =>
    obtain ⟨hvalid, tail, hbytes, hwithin, -⟩ := encodeCode_of_leadingCode? hcode
    exact ⟨tail, by rw [bytes, Char.toNat_ofNat, if_pos hvalid, hbytes], hwithin⟩

/-- The first rune can be read from any part of the text that holds its bytes. -/
theorem leading_of_bytes_within {a : UInt8} {tail part more : Text}
    (hbytes : (leading a (part ++ more)).bytes = a :: tail) (hwithin : tail <+: part) :
    leading a part = leading a (part ++ more) := by
  cases hpart : leadingCode? a part with
  | some n => simp only [leading, hpart, leadingCode?_append hpart more]
  | none =>
    cases hcode : leadingCode? a (part ++ more) with
    | none => simp only [leading, hpart, hcode]
    | some n =>
      -- The form of the longer text would already be complete in the part.
      obtain ⟨hvalid, own, hown, -, hcomplete⟩ := encodeCode_of_leadingCode? hcode
      obtain rfl : own = tail := by
        simpa [leading, hcode, bytes, Char.toNat_ofNat, hvalid, hown] using hbytes
      obtain ⟨behind, rfl⟩ := hwithin
      rw [leadingCode?_append hcomplete behind] at hpart
      cases hpart

/-- A byte that is no tail does not change the runes in front of it. -/
theorem leading_append_of_not_isTail {b : UInt8} (hb : isTail b = false) (a : UInt8)
    (rest more : Text) : leading a (rest ++ b :: more) = leading a rest := by
  unfold leading
  rw [leadingCode?_append_of_not_isTail hb]

/-- A tail alone is stray. -/
theorem leading_of_isTail {b : UInt8} (hb : isTail b = true) (rest : Text) :
    leading b rest = .stray b := by
  have hnone : leadingCode? b rest = none := by
    simp only [isTail, Bool.and_eq_true, decide_eq_true_eq, UInt8.le_iff_toNat_le,
      UInt8.reduceToNat] at hb
    have hlarge : ¬ b < 0x80 := by
      simp only [UInt8.lt_iff_toNat_lt, UInt8.reduceToNat]
      omega
    have hpair (c : UInt8) : pair? b c = none := by
      simp [pair?, UInt8.le_iff_toNat_le]
      omega
    have htriple (c d : UInt8) : triple? b c d = none := by
      simp [triple?, UInt8.le_iff_toNat_le]
      omega
    have hquadruple (c d e : UInt8) : quadruple? b c d e = none := by
      simp [quadruple?, UInt8.le_iff_toNat_le]
      omega
    unfold leadingCode?
    rw [if_neg hlarge]
    rcases rest with _ | ⟨c, _ | ⟨d, _ | ⟨e, rest⟩⟩⟩ <;> simp [hpair, htriple, hquadruple]
  rw [leading, hnone]

end Rune

namespace Text

/-- The first rune of a text, and the text behind its bytes. -/
theorem runes_cons_split (a : UInt8) (rest : Text) :
    ∃ behind, a :: rest = (Rune.leading a rest).bytes ++ behind ∧
      behind.length ≤ rest.length ∧
      runes (a :: rest) = Rune.leading a rest :: runes behind := by
  obtain ⟨tail, hbytes, behind, rfl⟩ := Rune.bytes_leading a rest
  refine ⟨behind, by simp [hbytes], by simp, ?_⟩
  rw [runes_cons, Rune.width, hbytes]
  simp

/-- Induction over a text rune by rune. -/
theorem runes_induction {motive : Text → Prop} (nil : motive [])
    (cons : ∀ (a : UInt8) (rest behind : Text), a :: rest = (Rune.leading a rest).bytes ++ behind →
      runes (a :: rest) = Rune.leading a rest :: runes behind → motive behind →
      motive (a :: rest)) (t : Text) : motive t := by
  induction hlength : t.length using Nat.strongRecOn generalizing t with
  | ind length ih =>
    cases t with
    | nil => exact nil
    | cons a rest =>
      obtain ⟨behind, hbytes, hshorter, hrunes⟩ := runes_cons_split a rest
      refine cons a rest behind hbytes hrunes (ih behind.length ?_ behind rfl)
      rw [← hlength, List.length_cons]
      omega

/-- No runes have no bytes. -/
@[simp]
theorem ofRunes_nil : ofRunes [] = [] := rfl

/-- The bytes of the first rune come first. -/
@[simp]
theorem ofRunes_cons (r : Rune) (rs : List Rune) : ofRunes (r :: rs) = r.bytes ++ ofRunes rs := rfl

/-- Runes may be encoded part by part. -/
@[simp]
theorem ofRunes_append (rs more : List Rune) :
    ofRunes (rs ++ more) = ofRunes rs ++ ofRunes more := by
  simp [ofRunes]

/-- Decoding loses nothing. -/
@[simp]
theorem ofRunes_runes (t : Text) : ofRunes (runes t) = t := by
  induction t using runes_induction with
  | nil => rfl
  | cons a rest behind hbytes hrunes ih => rw [hrunes, ofRunes_cons, ih, ← hbytes]

/-- A text is decoded apart from what follows it, if that begins with no tail. -/
theorem runes_append_of_not_isTail (s : Text) {b : UInt8} (hb : Rune.isTail b = false)
    (more : Text) : runes (s ++ b :: more) = runes s ++ runes (b :: more) := by
  induction s using runes_induction with
  | nil => rfl
  | cons a rest behind hbytes hrunes ih =>
    have hleading := Rune.leading_append_of_not_isTail hb a rest more
    obtain ⟨behind', hbytes', -, hrunes'⟩ := runes_cons_split a (rest ++ b :: more)
    rw [hleading] at hbytes' hrunes'
    have hbehind : behind' = behind ++ b :: more := by
      rw [← List.cons_append, hbytes, List.append_assoc] at hbytes'
      exact (List.append_cancel_left hbytes').symm
    rw [List.cons_append, hrunes', hbehind, ih, hrunes, List.cons_append]

/-- A byte below 0x80 in front of a text is decoded on its own. -/
theorem runes_cons_ascii {b : UInt8} (hb : b < 0x80) (rest : Text) :
    runes (b :: rest) = .char (Char.ofNat b.toNat) :: runes rest := by
  rw [runes_cons, Rune.leading_ascii hb, Rune.width, Rune.bytes_ascii hb]
  rfl

/-- A text of bytes below 0x80 is decoded byte by byte. -/
theorem runes_ascii {t : Text} (ht : ∀ b ∈ t, b < 0x80) :
    runes t = t.map fun b => .char (Char.ofNat b.toNat) := by
  induction t with
  | nil => rfl
  | cons b t ih =>
    rw [runes_cons_ascii (ht b (by simp)), ih fun c hc => ht c (by simp [hc]), List.map_cons]

/-- A byte below 0x80 is no tail. -/
theorem isTail_of_ascii {b : UInt8} (hb : b < 0x80) : Rune.isTail b = false := by
  simp only [Rune.isTail, UInt8.lt_iff_toNat_lt, UInt8.le_iff_toNat_le, Bool.and_eq_false_iff,
    decide_eq_false_iff_not, UInt8.reduceToNat] at hb ⊢
  omega

/-- A text is decoded apart from what follows it, if that begins with a byte below 0x80. -/
theorem runes_append_ascii (s : Text) {b : UInt8} (hb : b < 0x80) (more : Text) :
    runes (s ++ b :: more) = runes s ++ .char (Char.ofNat b.toNat) :: runes more := by
  rw [runes_append_of_not_isTail s (isTail_of_ascii hb), runes_cons_ascii hb]

/-- Runes below 0x80 that follow a text are decoded as themselves. -/
theorem runes_append_ofRunes (s : Text) {rs : List Rune} (h : ∀ r ∈ rs, r.code < 128) :
    runes (s ++ ofRunes rs) = runes s ++ rs := by
  induction rs generalizing s with
  | nil => simp
  | cons r rs ih =>
    obtain ⟨b, hb, rfl⟩ := Rune.exists_byte (h r (by simp))
    have hrest := ih [] fun r hr => h r (by simp [hr])
    simp only [List.nil_append, runes_nil] at hrest
    rw [ofRunes_cons, Rune.bytes_ascii hb, List.singleton_append, runes_append_ascii s hb, hrest]

/-- Tails alone are all stray. -/
theorem runes_of_isTail {t : Text} (ht : ∀ b ∈ t, Rune.isTail b = true) :
    runes t = t.map Rune.stray := by
  induction t with
  | nil => rfl
  | cons b t ih =>
    have hstray : Rune.leading b t = .stray b := Rune.leading_of_isTail (ht b (by simp)) t
    rw [runes_cons, hstray, List.map_cons, ← ih fun c hc => ht c (by simp [hc])]
    rfl

/-- What a text holds does not change when another text follows, except that stray bytes at its
end may become part of a character. -/
theorem runes_append (s t : Text) :
    ∃ settled unsettled changed, runes s = settled ++ unsettled ∧
      runes (s ++ t) = settled ++ changed ∧ ∀ r ∈ unsettled, ∃ b, r = .stray b := by
  induction s using runes_induction with
  | nil => exact ⟨[], [], runes t, rfl, rfl, by simp⟩
  | cons a rest behind hbytes hrunes ih =>
    by_cases hsame : Rune.leading a (rest ++ t) = Rune.leading a rest
    · obtain ⟨settled, unsettled, changed, hbefore, hafter, hstray⟩ := ih
      obtain ⟨behind', hbytes', -, hrunes'⟩ := runes_cons_split a (rest ++ t)
      rw [hsame] at hbytes' hrunes'
      have hbehind : behind' = behind ++ t := by
        rw [← List.cons_append, hbytes, List.append_assoc] at hbytes'
        exact (List.append_cancel_left hbytes').symm
      refine ⟨Rune.leading a rest :: settled, unsettled, changed, ?_, ?_, hstray⟩
      · rw [hrunes, hbefore, List.cons_append]
      · rw [List.cons_append, hrunes', hbehind, hafter, List.cons_append]
    · -- The first byte begins a character only with the bytes of `t`.
      refine ⟨[], runes (a :: rest), runes (a :: rest ++ t), rfl, rfl, ?_⟩
      have hnone : Rune.leadingCode? a rest = none := by
        by_contra hsome
        obtain ⟨n, hn⟩ := Option.ne_none_iff_exists'.mp hsome
        apply hsame
        simp only [Rune.leading, hn, Rune.leadingCode?_append hn t]
      have hcode : ∃ n, Rune.leadingCode? a (rest ++ t) = some n := by
        apply Option.ne_none_iff_exists'.mp
        intro hstill
        apply hsame
        simp only [Rune.leading, hnone, hstill]
      obtain ⟨n, hn⟩ := hcode
      have htails := Rune.isTail_of_leadingCode?_append hnone hn
      have hfirst : Rune.leading a rest = .stray a := by simp only [Rune.leading, hnone]
      intro r hr
      rw [runes_cons, hfirst] at hr
      rcases List.mem_cons.mp hr with rfl | hr
      · exact ⟨a, rfl⟩
      · have hall : ∀ b ∈ rest.drop ((Rune.stray a).width - 1), Rune.isTail b = true :=
          fun b hb => htails b (List.mem_of_mem_drop hb)
        rw [runes_of_isTail hall] at hr
        obtain ⟨b, -, rfl⟩ := List.mem_map.mp hr
        exact ⟨b, rfl⟩

/-- A run of runes at the beginning of a decoded text is decoded as itself. -/
theorem runes_ofRunes_front {t : Text} {rs more : List Rune} (h : runes t = rs ++ more) :
    runes (ofRunes rs) = rs := by
  induction rs generalizing t with
  | nil => rfl
  | cons r rs ih =>
    cases t with
    | nil => simp at h
    | cons a rest =>
      obtain ⟨behind, hbytes, -, hrunes⟩ := runes_cons_split a rest
      rw [hrunes, List.cons_append, List.cons.injEq] at h
      obtain ⟨rfl, hbehind⟩ := h
      obtain ⟨tail, hfirst, -⟩ := Rune.bytes_leading a rest
      have htext : behind = ofRunes rs ++ ofRunes more := by
        rw [← ofRunes_append, ← hbehind, ofRunes_runes]
      have hrest : rest = (tail ++ ofRunes rs) ++ ofRunes more := by
        rw [hfirst, htext] at hbytes
        simpa using hbytes
      have hleading : Rune.leading a (tail ++ ofRunes rs) = Rune.leading a rest := by
        rw [hrest] at hfirst ⊢
        exact Rune.leading_of_bytes_within hfirst (List.prefix_append _ _)
      rw [ofRunes_cons, hfirst, List.cons_append, runes_cons, hleading, Rune.width, hfirst]
      simp [ih hbehind]

/-- A run of runes at the end of a decoded text is decoded as itself. -/
theorem runes_ofRunes_back {t : Text} {front rs : List Rune} (h : runes t = front ++ rs) :
    runes (ofRunes rs) = rs := by
  induction front generalizing t with
  | nil => rw [← List.nil_append rs, ← h, ofRunes_runes]
  | cons r front ih =>
    cases t with
    | nil => simp at h
    | cons a rest =>
      obtain ⟨behind, -, -, hrunes⟩ := runes_cons_split a rest
      rw [hrunes, List.cons_append, List.cons.injEq] at h
      exact ih h.2

/-- Where a text has a stray byte, a longer text has no character below 0x80. -/
theorem code_of_append_stray {s t : Text} {front rest changed : List Rune} {b : UInt8}
    (h : runes s = front ++ .stray b :: rest) (hlonger : runes (s ++ t) = front ++ changed)
    {r : Rune} (hr : r ∈ changed.head?) : 128 ≤ r.code := by
  obtain ⟨more, rfl⟩ := List.head?_eq_some_iff.mp hr
  have hshort : s = ofRunes front ++ b :: ofRunes rest := by
    rw [← ofRunes_runes s, h, ofRunes_append]
    rfl
  have hlong : s ++ t = ofRunes front ++ (r.bytes ++ ofRunes more) := by
    rw [← ofRunes_runes (s ++ t), hlonger, ofRunes_append, ofRunes_cons]
  rw [hshort, List.append_assoc, List.append_cancel_left_eq] at hlong
  by_contra hsmall
  obtain ⟨a, ha, rfl⟩ := Rune.exists_byte (not_le.mp hsmall)
  rw [Rune.bytes_ascii ha] at hlong
  obtain rfl : b = a := (List.cons.inj hlong).1
  have hstray : runes (b :: ofRunes rest) = .stray b :: rest := runes_ofRunes_back h
  rw [runes_cons_ascii ha] at hstray
  cases hstray

end Text

namespace Rune

/-! ### Encoding -/

section Encode

variable {n : Nat}

/-- A number below 256 is a byte. -/
theorem toNat_ofNat_byte (h : n < 256) : (UInt8.ofNat n).toNat = n := by
  rw [UInt8.toNat_ofNat']
  omega

/-- The encoding of a code point in two bytes is decoded to it. -/
theorem leadingCode?_of_two (hle : 0x80 ≤ n) (hlt : n < 0x800) :
    leadingCode? (UInt8.ofNat (0xC0 + n / 0x40)) [UInt8.ofNat (0x80 + n % 0x40)] = some n := by
  have ha : (UInt8.ofNat (0xC0 + n / 0x40)).toNat = _ := toNat_ofNat_byte (by omega)
  have hb : (UInt8.ofNat (0x80 + n % 0x40)).toNat = _ := toNat_ofNat_byte (by omega)
  generalize UInt8.ofNat (0xC0 + n / 0x40) = a, UInt8.ofNat (0x80 + n % 0x40) = b at *
  have hlarge : ¬ a < 0x80 := by
    simp only [UInt8.lt_iff_toNat_lt, UInt8.reduceToNat]
    omega
  have hpair : pair? a b = some n := by
    simp only [pair?, isTail, Bool.and_eq_true, decide_eq_true_eq, UInt8.le_iff_toNat_le,
      UInt8.reduceToNat, Option.ite_none_right_eq_some, Option.some.injEq]
    omega
  simp only [leadingCode?, if_neg hlarge, hpair]

/-- The encoding of a code point in three bytes is decoded to it. -/
theorem leadingCode?_of_three (hvalid : n.isValidChar) (hle : 0x800 ≤ n) (hlt : n < 0x10000) :
    leadingCode? (UInt8.ofNat (0xE0 + n / 0x1000))
      [UInt8.ofNat (0x80 + n / 0x40 % 0x40), UInt8.ofNat (0x80 + n % 0x40)] = some n := by
  unfold Nat.isValidChar at hvalid
  have ha : (UInt8.ofNat (0xE0 + n / 0x1000)).toNat = _ := toNat_ofNat_byte (by omega)
  have hb : (UInt8.ofNat (0x80 + n / 0x40 % 0x40)).toNat = _ := toNat_ofNat_byte (by omega)
  have hc : (UInt8.ofNat (0x80 + n % 0x40)).toNat = _ := toNat_ofNat_byte (by omega)
  generalize UInt8.ofNat (0xE0 + n / 0x1000) = a, UInt8.ofNat (0x80 + n / 0x40 % 0x40) = b,
    UInt8.ofNat (0x80 + n % 0x40) = c at *
  have hlarge : ¬ a < 0x80 := by
    simp only [UInt8.lt_iff_toNat_lt, UInt8.reduceToNat]
    omega
  have hpair : pair? a b = none := by
    simp [pair?, UInt8.le_iff_toNat_le]
    omega
  have htriple : triple? a b c = some n := by
    simp only [triple?, isTail, Bool.and_eq_true, Bool.not_eq_true', Bool.and_eq_false_iff,
      decide_eq_true_eq, decide_eq_false_iff_not, UInt8.le_iff_toNat_le, UInt8.lt_iff_toNat_lt,
      beq_eq_false_iff_ne, ne_eq, ← UInt8.toNat_inj, UInt8.reduceToNat,
      Option.ite_none_right_eq_some, Option.some.injEq]
    omega
  simp only [leadingCode?, if_neg hlarge, hpair, htriple]
  rfl

/-- The encoding of a code point in four bytes is decoded to it. -/
theorem leadingCode?_of_four (hvalid : n.isValidChar) (hle : 0x10000 ≤ n) :
    leadingCode? (UInt8.ofNat (0xF0 + n / 0x40000))
      [UInt8.ofNat (0x80 + n / 0x1000 % 0x40), UInt8.ofNat (0x80 + n / 0x40 % 0x40),
        UInt8.ofNat (0x80 + n % 0x40)] = some n := by
  unfold Nat.isValidChar at hvalid
  have ha : (UInt8.ofNat (0xF0 + n / 0x40000)).toNat = _ := toNat_ofNat_byte (by omega)
  have hb : (UInt8.ofNat (0x80 + n / 0x1000 % 0x40)).toNat = _ := toNat_ofNat_byte (by omega)
  have hc : (UInt8.ofNat (0x80 + n / 0x40 % 0x40)).toNat = _ := toNat_ofNat_byte (by omega)
  have hd : (UInt8.ofNat (0x80 + n % 0x40)).toNat = _ := toNat_ofNat_byte (by omega)
  generalize UInt8.ofNat (0xF0 + n / 0x40000) = a, UInt8.ofNat (0x80 + n / 0x1000 % 0x40) = b,
    UInt8.ofNat (0x80 + n / 0x40 % 0x40) = c, UInt8.ofNat (0x80 + n % 0x40) = d at *
  have hlarge : ¬ a < 0x80 := by
    simp only [UInt8.lt_iff_toNat_lt, UInt8.reduceToNat]
    omega
  have hpair : pair? a b = none := by
    simp [pair?, UInt8.le_iff_toNat_le]
    omega
  have htriple : triple? a b c = none := by
    simp [triple?, UInt8.le_iff_toNat_le]
    omega
  have hquadruple : quadruple? a b c d = some n := by
    simp only [quadruple?, isTail, Bool.and_eq_true, Bool.not_eq_true', Bool.and_eq_false_iff,
      decide_eq_true_eq, decide_eq_false_iff_not, UInt8.le_iff_toNat_le, UInt8.lt_iff_toNat_lt,
      beq_eq_false_iff_ne, ne_eq, ← UInt8.toNat_inj, UInt8.reduceToNat,
      Option.ite_none_right_eq_some, Option.some.injEq]
    omega
  simp only [leadingCode?, if_neg hlarge, hpair, htriple, hquadruple]
  rfl

/-- The encoding of a code point is decoded to it. -/
theorem leadingCode?_encodeCode (hvalid : n.isValidChar) :
    ∃ a tail, encodeCode n = a :: tail ∧ leadingCode? a tail = some n := by
  unfold encodeCode
  split_ifs with hone htwo hthree
  · have ha : (UInt8.ofNat n).toNat = n := toNat_ofNat_byte (by omega)
    refine ⟨_, _, rfl, ?_⟩
    simp [leadingCode?, UInt8.lt_iff_toNat_lt, ha, hone]
  · exact ⟨_, _, rfl, leadingCode?_of_two (by omega) htwo⟩
  · exact ⟨_, _, rfl, leadingCode?_of_three hvalid (by omega) hthree⟩
  · exact ⟨_, _, rfl, leadingCode?_of_four hvalid (by omega)⟩

end Encode

/-- The bytes of a character are decoded to it, whatever follows, and they do not begin with a
tail. -/
theorem leading_bytes_char (c : Char) (rest : Text) :
    ∃ a tail, (char c).bytes = a :: tail ∧ leading a (tail ++ rest) = .char c ∧
      isTail a = false := by
  obtain ⟨a, tail, hbytes, hcode⟩ := leadingCode?_encodeCode c.valid
  have hleading : leading a (tail ++ rest) = .char c := by
    have hvalue : Char.ofNat c.val.toNat = c := Char.ofNat_toNat c
    simp only [leading, leadingCode?_append hcode rest, hvalue]
  refine ⟨a, tail, hbytes, hleading, ?_⟩
  rw [← Bool.not_eq_true]
  intro htail
  rw [leading_of_isTail htail] at hleading
  cases hleading

end Rune

namespace Text

/-- A character is decoded on its own. -/
theorem runes_ofRunes_char (c : Char) (rs : List Rune) :
    runes (ofRunes (.char c :: rs)) = .char c :: runes (ofRunes rs) := by
  obtain ⟨a, tail, hbytes, hleading, -⟩ := Rune.leading_bytes_char c (ofRunes rs)
  rw [ofRunes_cons, hbytes, List.cons_append, runes_cons, hleading, Rune.width, hbytes]
  simp

end Text

end Lisplet
