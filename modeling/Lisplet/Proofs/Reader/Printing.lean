import Lisplet.Proofs.Decimal.RoundTrip
import Lisplet.Proofs.Reader.Continuation

/-!
# Values read back as they are printed

The source text of a value can be read again if the value is readable: its texts hold no quote, its
numbers are written without an exponent, and its symbols are spelled as symbols are. The source
texts of such values, joined by blanks, are read as these values.
-/

namespace Lisplet

/-! ### Source texts -/

mutual

/-- The source text of a value in front of another text. -/
theorem Value.sourceOnto_eq (v : Value) (behind : Text) :
    v.sourceOnto behind = v.source ++ behind := by
  cases v with
  | list items =>
    have h₁ := Value.sourceItemsOnto_eq items (text ")" ++ behind)
    have h₂ := Value.sourceItemsOnto_eq items (text ")")
    simp [Value.source, Value.sourceOnto, h₁, h₂]
  | func identity params body =>
    have h₁ := Value.sourceOnto_eq params (text ">" ++ behind)
    have h₂ := Value.sourceOnto_eq params (text ">")
    simp [Value.source, Value.sourceOnto, h₁, h₂]
  | bool b => cases b <;> simp [Value.source, Value.sourceOnto]
  | _ => simp [Value.source, Value.sourceOnto]

/-- The source texts of the items of a list in front of another text. -/
theorem Value.sourceItemsOnto_eq (items : List Value) (behind : Text) :
    Value.sourceItemsOnto items behind =
      Text.join (text " ") (items.map Value.source) ++ behind := by
  match items with
  | [] => rfl
  | [v] => exact Value.sourceOnto_eq v behind
  | v :: w :: rest =>
    rw [Value.sourceItemsOnto, Value.sourceOnto_eq v, Value.sourceItemsOnto_eq (w :: rest) behind]
    · simp [Text.join]
    · simp

end

end Lisplet

namespace Lisplet.Reader

/-! ### Readable values -/

/-- A name that is read as the symbol it names. -/
structure IsReadableName (name : Text) : Prop where
  /-- The name is in canonical form. -/
  canonical : name.nfc = name
  /-- The name is not empty. -/
  nonempty : name ≠ []
  /-- The name holds neither white space nor delimiters. -/
  unbroken : ∀ r ∈ name.runes, endsWord r = false
  /-- The name does not begin like a string. -/
  unquoted : name.runes.head? ≠ some (.char '"')
  /-- The name does not begin like a number. -/
  notNumber : ¬ BeginsNumber name.runes
  /-- The name is no truth value. -/
  notTruth : ∀ b, name.runes ∉ truthSpellings b

/-- A value that can be read from its source text. -/
inductive Readable : Value → Prop where
  | bool (b : Bool) : Readable (.bool b)
  | str {t : Text} : 34 ∉ t → Readable (.str t)
  | num {n : Float} : n.isFinite = true → 101 ∉ Decimal.sourceText n → Readable (.num n)
  | sym {name : Text} : IsReadableName name → Readable (.sym name)
  | list {items : List Value} : (∀ v ∈ items, Readable v) → Readable (.list items)

/-! ### What may follow a value -/

/-- A text in front of which a token ends and no call begins: nothing, a blank, a line end or a
closing bracket. -/
def Separates (t : Text) : Prop :=
  t = [] ∨ ∃ b rest, t = b :: rest ∧ (b = 32 ∨ b = 10 ∨ b = 41)

section Separates

variable {behind : Text} (h : Separates behind)
include h

/-- What separates values is decoded on its own. -/
theorem Separates.runes_append (t : Text) : (t ++ behind).runes = t.runes ++ behind.runes := by
  rcases h with rfl | ⟨b, rest, rfl, hb⟩
  · simp
  · have htail : Rune.isTail b = false := by rcases hb with rfl | rfl | rfl <;> decide
    exact Text.runes_append_of_not_isTail t htail rest

/-- What separates values begins with a boundary that opens no list. -/
theorem Separates.head? :
    ∀ r ∈ behind.runes.head?, endsWord r = true ∧ r ≠ .char '(' := by
  rcases h with rfl | ⟨b, rest, rfl, hb⟩
  · simp
  · intro r hr
    have hascii : b < 0x80 := by rcases hb with rfl | rfl | rfl <;> decide
    rw [Text.runes_cons_ascii hascii] at hr
    obtain rfl := Option.some.inj hr
    rcases hb with rfl | rfl | rfl <;> decide

/-- A word stops in front of a separator. -/
theorem Separates.stopsAt : StopsAt (fun r => !endsWord r) behind.runes := by
  intro r hr
  simp [(h.head? r hr).1]

/-- A separator begins no call. -/
theorem Separates.ne_call : behind.runes.head? ≠ some (.char '(') :=
  fun hcall => (h.head? _ hcall).2 rfl

/-- A token in front of a separator is one more item. -/
theorem Separates.verdict_token {written : List Rune} {t : Token} {v : Value}
    (htoken : IsToken written behind.runes t) (hvalue : t.value? = some v) (st : Nesting) :
    verdict st (written ++ behind.runes) = verdict (st.push v) behind.runes :=
  verdict_leaf (lex_of_isToken htoken) hvalue (fun _ => h.ne_call) st

end Separates

/-! ### Numbers -/

/-- The byte of a digit is decoded as a digit. -/
theorem isDigit_of_byte {b : UInt8} (h : Text.isDigit b = true) :
    b < 0x80 ∧ isDigit (.char (Char.ofNat b.toNat)) = true := by
  simp only [Text.isDigit, Bool.and_eq_true, decide_eq_true_eq, UInt8.le_iff_toNat_le,
    UInt8.reduceToNat] at h
  have hcode : (Rune.char (Char.ofNat b.toNat)).code = b.toNat :=
    (Char.toNat_ofNat _).trans (if_pos (Or.inl (by omega)))
  constructor
  · rw [UInt8.lt_iff_toNat_lt]
    simp only [UInt8.reduceToNat]
    omega
  · simpa [isDigit, hcode] using h

/-- Digits and points are decoded as such. -/
theorem isNumeralRune_runes {t : Text} (h : ∀ b ∈ t, Text.isDigit b = true ∨ b = 46) :
    ∀ r ∈ t.runes, isNumeralRune r = true := by
  have hascii : ∀ b ∈ t, b < 0x80 := by
    intro b hb
    rcases h b hb with hdigit | rfl
    · exact (isDigit_of_byte hdigit).1
    · decide
  intro r hr
  rw [Text.runes_ascii hascii] at hr
  obtain ⟨b, hb, rfl⟩ := List.mem_map.mp hr
  rcases h b hb with hdigit | rfl
  · simp [isNumeralRune, (isDigit_of_byte hdigit).2]
  · decide

/-- The bytes of the unsigned part of a numeral are digits and points. -/
theorem mem_unsigned {whole : Text} {fraction : Option Text} (hwhole : Decimal.AllDigits whole)
    (hfraction : ∀ digits ∈ fraction, Decimal.AllDigits digits) :
    ∀ b ∈ whole ++ Decimal.fractionText fraction, Text.isDigit b = true ∨ b = 46 := by
  intro b hb
  rcases List.mem_append.mp hb with hb | hb
  · exact Or.inl (hwhole b hb)
  · cases fraction with
    | none => cases hb
    | some digits =>
      rcases List.mem_cons.mp hb with rfl | hb
      · exact Or.inr rfl
      · exact Or.inl (hfraction digits rfl b hb)

/-- A numeral is decoded as an optional sign and its digits and points. -/
theorem runes_numeralText (negative : Bool) (whole : Text) (fraction : Option Text) :
    (Decimal.numeralText negative whole fraction).runes =
      (if negative then [.char '-'] else []) ++ (whole ++ Decimal.fractionText fraction).runes := by
  cases negative with
  | false => rfl
  | true => exact Text.runes_cons_ascii (by decide) _

section Numeral

variable {whole : Text} {fraction : Option Text} (hwhole : Decimal.AllDigits whole)
  (hfraction : ∀ digits ∈ fraction, Decimal.AllDigits digits) (negative : Bool)
include hwhole hfraction

/-- A numeral with digits before the point is spelled as numbers are. -/
theorem isNumeral_numeralText (hne : whole ≠ []) {behind : List Rune}
    (hstop : StopsAt isNumeralRune behind) :
    IsNumeral (Decimal.numeralText negative whole fraction).runes behind := by
  have hsign : (if negative then [.char '-'] else [] : List Rune) = [] ∨
      (if negative then [.char '-'] else [] : List Rune) = [.char '-'] := by
    cases negative
    · exact Or.inl rfl
    · exact Or.inr rfl
  rw [runes_numeralText]
  refine ⟨?_, ?_, ?_⟩
  · obtain ⟨b, rest, rfl⟩ := List.exists_cons_of_ne_nil hne
    obtain ⟨hascii, hdigit⟩ := isDigit_of_byte (hwhole b (by simp))
    rw [List.cons_append, Text.runes_cons_ascii hascii]
    exact ⟨_, [], _, _, by rw [List.append_nil], hsign, Or.inl rfl, hdigit⟩
  · exact ⟨_, _, rfl, hsign, isNumeralRune_runes (mem_unsigned hwhole hfraction)⟩
  · exact hstop

/-- A numeral has one point at most. -/
theorem count_runes_numeralText :
    (Decimal.numeralText negative whole fraction).runes.count (.char '.') ≤ 1 := by
  have hcount := (ofRunes_numeral (isNumeralRune_runes (mem_unsigned hwhole hfraction))).2.1
  have hpoints := Decimal.count_numeralText false hwhole hfraction
  have hnone : (if negative then [.char '-'] else [] : List Rune).count (.char '.') = 0 := by
    cases negative <;> rfl
  rw [Text.ofRunes_runes] at hcount
  rw [Decimal.numeralText] at hpoints
  simp only [Bool.false_eq_true, if_false, List.nil_append] at hpoints
  rw [runes_numeralText, List.count_append, hnone, ← hcount, hpoints]
  split_ifs <;> omega

/-- A numeral in front of anything but digits and points is a token. -/
theorem isToken_numeralText (hne : whole ≠ []) {behind : List Rune}
    (hstop : StopsAt isNumeralRune behind) {n : Float}
    (hparse : Decimal.parse? (Decimal.numeralText negative whole fraction) = some n)
    (hinf : n.isInf = false) :
    IsToken (Decimal.numeralText negative whole fraction).runes behind (.number n) :=
  .number (isNumeral_numeralText hwhole hfraction negative hne hstop)
    (count_runes_numeralText hwhole hfraction negative) (by rwa [Text.ofRunes_runes]) hinf

end Numeral

/-- A boundary ends a numeral too. -/
theorem StopsAt.numeral {behind : List Rune} (h : StopsAt (fun r => !endsWord r) behind) :
    StopsAt isNumeralRune behind := by
  intro r hr
  have hboundary := h r hr
  cases hnumeral : isNumeralRune r with
  | false => rfl
  | true => simp [endsWord_of_isNumeralRune hnumeral] at hboundary

/-- A finite number that is written without an exponent is a token. -/
theorem isToken_sourceText {n : Float} (hfinite : n.isFinite = true)
    (hexponent : 101 ∉ Decimal.sourceText n) {behind : List Rune}
    (hstop : StopsAt (fun r => !endsWord r) behind) :
    IsToken (Decimal.sourceText n).runes behind (.number n) := by
  obtain ⟨negative, whole, fraction, htext, hwhole, hne, hfraction, hparse⟩ :=
    Decimal.exists_numeralText_sourceText hfinite hexponent
  rw [htext] at hparse ⊢
  exact isToken_numeralText hwhole hfraction negative hne hstop.numeral hparse
    (Decimal.isInf_of_isFinite hfinite)

/-! ### Reading back -/

/-- In front of a separator, the source text of the value is read as one more item. -/
def ReadsBack (v : Value) : Prop :=
  ∀ {behind : Text}, Separates behind → ∀ st : Nesting,
    verdict st (v.sourceOnto behind).runes = verdict (st.push v) behind.runes

/-- A value whose source text is a token reads back. -/
theorem readsBack_of_isToken {v : Value} {t : Token}
    (htoken : ∀ {behind : List Rune}, StopsAt (fun r => !endsWord r) behind →
      IsToken v.source.runes behind t) (hvalue : t.value? = some v) : ReadsBack v := by
  intro behind hbehind st
  rw [Value.sourceOnto_eq, hbehind.runes_append]
  exact hbehind.verdict_token (htoken hbehind.stopsAt) hvalue st

/-- The source text of a string is a token. -/
theorem isToken_str {t : Text} (hquote : 34 ∉ t) (behind : List Rune) :
    IsToken (Value.str t).source.runes behind (.string t) := by
  have hsource : (Value.str t).source.runes = .char '"' :: t.runes ++ [.char '"'] := by
    have hlast : (t ++ [34]).runes = t.runes ++ [.char '"'] :=
      Text.runes_append_of_not_isTail t (by decide) []
    rw [List.cons_append, ← hlast]
    exact Text.runes_cons_ascii (by decide) _
  have hcontents : Rune.char '"' ∉ t.runes := by
    intro hmem
    apply hquote
    rw [← Text.ofRunes_runes t, Text.ofRunes]
    exact List.mem_flatMap.mpr ⟨_, hmem, by decide⟩
  have htoken : IsToken _ behind _ := .string hcontents
  rwa [Text.ofRunes_runes, ← hsource] at htoken

/-- The name of a readable symbol is a token. -/
theorem IsReadableName.isToken {name : Text} (h : IsReadableName name) {behind : List Rune}
    (hstop : StopsAt (fun r => !endsWord r) behind) :
    IsToken name.runes behind (.symbol name) := by
  have hne : name.runes ≠ [] := by
    intro hnil
    apply h.nonempty
    rw [← Text.ofRunes_runes name, hnil]
    rfl
  have htoken := IsToken.symbol hne h.unbroken hstop h.notNumber h.notTruth h.unquoted
  rwa [Text.ofRunes_runes] at htoken

/-- Items that read back are read one after the other. -/
theorem verdict_sourceItemsOnto {items : List Value} (hitems : ∀ v ∈ items, ReadsBack v)
    {behind : Text} (hbehind : Separates behind) (st : Nesting) :
    verdict st (Value.sourceItemsOnto items behind).runes =
      verdict ⟨st.items ++ items, st.enclosing⟩ behind.runes := by
  induction items generalizing st with
  | nil =>
    rw [List.append_nil]
    rfl
  | cons v rest ih =>
    cases rest with
    | nil => exact hitems v (by simp) hbehind st
    | cons w more =>
      have hblank : Separates (text " " ++ Value.sourceItemsOnto (w :: more) behind) :=
        Or.inr ⟨_, _, rfl, Or.inl rfl⟩
      have hruns : (text " " ++ Value.sourceItemsOnto (w :: more) behind).runes =
          .char ' ' :: (Value.sourceItemsOnto (w :: more) behind).runes :=
        Text.runes_cons_ascii (by decide) _
      have hv := hitems v (by simp) hblank st
      rw [hruns, verdict_cons_blank (by decide), ih (fun u hu => hitems u (by simp [hu]))] at hv
      simpa [Nesting.push, Value.sourceItemsOnto] using hv

/-- A list is read if its items are read between its brackets. -/
theorem verdict_list_of_items {inner behind : Text} {items : List Value} {st : Nesting}
    (hinner : verdict (st.enter .list []) inner.runes =
      verdict ⟨items, (.list, st.items) :: st.enclosing⟩ (text ")" ++ behind).runes) :
    verdict st (text "(" ++ inner).runes = verdict (st.push (.list items)) behind.runes := by
  have hclosing : (text ")" ++ behind).runes = .char ')' :: behind.runes :=
    Text.runes_cons_ascii (by decide) behind
  calc verdict st (text "(" ++ inner).runes = verdict st (.char '(' :: inner.runes) :=
        congrArg _ (Text.runes_cons_ascii (by decide) _)
    _ = verdict (st.enter .list []) inner.runes := verdict_opening (lex_bracket rfl _) st
    _ = verdict ⟨items, (.list, st.items) :: st.enclosing⟩ (.char ')' :: behind.runes) :=
        hinner.trans (congrArg _ hclosing)
    _ = verdict (st.push (.list items)) behind.runes := by
        rw [verdict_closing (e := .list) (lex_bracket rfl _)]
        rfl

/-- Every readable value reads back. -/
theorem Readable.readsBack {v : Value} (h : Readable v) : ReadsBack v := by
  induction h with
  | bool b =>
    refine readsBack_of_isToken (t := .truth b) (fun hstop => .truth ?_ hstop) rfl
    cases b <;> decide
  | str hquote => exact readsBack_of_isToken (fun _ => isToken_str hquote _) rfl
  | num hfinite hexponent =>
    refine readsBack_of_isToken (t := .number _) (fun hstop => ?_) rfl
    simpa [Value.source, Value.sourceOnto] using isToken_sourceText hfinite hexponent hstop
  | @sym name hname =>
    refine readsBack_of_isToken (t := .symbol name) (fun hstop => ?_) ?_
    · simpa [Value.source, Value.sourceOnto] using hname.isToken hstop
    · simp [Token.value?, Value.symbol, hname.canonical]
  | @list items hitems ih =>
    intro behind hbehind st
    have hround : Separates (text ")" ++ behind) := Or.inr ⟨_, _, rfl, Or.inr (Or.inr rfl)⟩
    exact verdict_list_of_items (verdict_sourceItemsOnto ih hround _)

/-- The source texts of readable values, joined by blanks, are read as these values. -/
theorem parseAll_join_source {vs : List Value} (h : ∀ v ∈ vs, Readable v) :
    parseAll (Text.join (text " ") (vs.map Value.source)) = .ok vs := by
  have hsource := Value.sourceItemsOnto_eq vs []
  rw [List.append_nil] at hsource
  rw [parseAll_eq_ok_iff_verdict, ← hsource,
    verdict_sourceItemsOnto (fun v hv => (h v hv).readsBack) (Or.inl rfl)]
  rw [Text.runes_nil, verdict_of_blank no_blanks]
  rfl

/-- A call with every kind of argument: a symbol, a string, a number, a truth value and a list. -/
theorem parseAll_join_source_call :
    parseAll (Text.join (text " ")
      ([.list [.sym (text "f"), .str (text "a b"), .num 1.5], .bool true, .list []].map
        Value.source)) =
      .ok [.list [.sym (text "f"), .str (text "a b"), .num 1.5], .bool true, .list []] := by
  have hname : IsReadableName (text "f") := by
    refine ⟨by decide, by decide, by decide, by decide, ?_, by decide⟩
    exact numeral?_eq_none_iff.mp rfl
  have hitems : ∀ v ∈ [.sym (text "f"), .str (text "a b"), .num 1.5], Readable v := by
    simp only [List.mem_cons, List.not_mem_nil, or_false, forall_eq_or_imp, forall_eq]
    exact ⟨.sym hname, .str (by decide), .num (by decide) (by decide +kernel)⟩
  apply parseAll_join_source
  simp only [List.mem_cons, List.not_mem_nil, or_false, forall_eq_or_imp, forall_eq]
  exact ⟨.list hitems, .bool true, .list (by simp)⟩

end Lisplet.Reader
