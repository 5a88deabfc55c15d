import Lisplet.Proofs.Reader.Culprit
import Lisplet.Proofs.Reader.Printing
import Lisplet.Proofs.Text.Composition

/-!
# What readers produce

Whatever a source holds, a reader hands out data only: finite numbers, truth values, texts without a
quote, symbols that are spelled as symbols are, and lists of these. This goes for the forms in front
of an error too, since the runes that spell them are a source of their own.
-/

namespace Lisplet.Reader

/-- A text that readers take for a symbol. -/
structure IsSpelling (t : Text) : Prop where
  /-- The text is not empty. -/
  nonempty : t ≠ []
  /-- The text holds neither white space nor delimiters. -/
  unbroken : ∀ r ∈ t.runes, endsWord r = false
  /-- The text does not begin like a string. -/
  unquoted : t.runes.head? ≠ some (.char '"')
  /-- The text does not begin like a number. -/
  notNumber : ¬ BeginsNumber t.runes
  /-- The text is no truth value. -/
  notTruth : ∀ b, t.runes ∉ truthSpellings b

/-- A value that is data. -/
inductive IsDatum : Value → Prop where
  | bool (b : Bool) : IsDatum (.bool b)
  | str {t : Text} : 34 ∉ t → IsDatum (.str t)
  | num {n : Float} : n.isFinite = true → IsDatum (.num n)
  | sym {name : Text} : IsReadableName name → IsDatum (.sym name)
  | list {items : List Value} : (∀ v ∈ items, IsDatum v) → IsDatum (.list items)

/-- The canonical form of each spelling in a source is its own canonical form. -/
def SettlesSpellings (source : Text) : Prop :=
  ∀ t : Text, t <:+: source → IsSpelling t → t.nfc.nfc = t.nfc

/-! ### Canonical forms of spellings -/

section Spelling

open Text.Canonical

/-- What does not end a word is clear. -/
theorem isClear_of_endsWord {r : Rune} (h : endsWord r = false) : IsClear r := by
  cases r with
  | stray b => exact Or.inl rfl
  | char c =>
    rw [endsWord, Bool.or_eq_false_iff] at h
    obtain ⟨hblank, hdelimiter⟩ := h
    have hblank : isBlankCode c.toNat = false := hblank
    have hangle : angles.contains c = false := by
      rw [← Bool.not_eq_true, List.contains_iff_mem, angles, List.mem_pair]
      rintro (rfl | rfl)
      · exact absurd hdelimiter (by decide)
      · exact absurd hdelimiter (by decide)
    cases hinert : isInert (.char c) with
    | true => exact Or.inl hinert
    | false =>
      refine Or.inr ?_
      simp only [isFree, hinert, hblank, hangle]
      rfl

/-- The characters that end words are inert, the angle brackets apart. -/
theorem wordEnds_spec :
    wordEnds.all (fun c => isInert (.char c) || angles.contains c) = true := by
  decide +kernel

/-- Free runes do not end words. -/
theorem endsWord_of_isFree {r : Rune} (h : isFree r = true) : endsWord r = false := by
  cases r with
  | stray b => cases h
  | char c =>
    simp only [isFree, Bool.and_eq_true, Bool.not_eq_true'] at h
    obtain ⟨⟨hinert, hblank⟩, hangle⟩ := h
    rw [endsWord, Bool.or_eq_false_iff]
    refine ⟨hblank, ?_⟩
    rw [← Bool.not_eq_true]
    intro hdelimiter
    obtain ⟨c', hmem, hc⟩ := List.any_eq_true.mp hdelimiter
    obtain rfl := Rune.char.inj (Rune.isChar_iff.mp hc)
    have hspec := List.all_eq_true.mp wordEnds_spec c hmem
    rw [hinert, hangle] at hspec
    cases hspec

/-- Digits are inert. -/
theorem isInert_of_isDigit {r : Rune} (h : isDigit r = true) : isInert r = true := by
  simp only [isDigit, Bool.and_eq_true, decide_eq_true_eq] at h
  cases r with
  | stray b => exact rfl
  | char c =>
    have hcode : 48 ≤ c.toNat ∧ c.toNat ≤ 57 := h
    rw [← Char.ofNat_toNat c]
    generalize c.toNat = n at hcode
    obtain ⟨hle, hge⟩ := hcode
    interval_cases n <;> decide

/-- Runes without a boundary are replaced by runes without one. -/
theorem endsWord_of_recast {rs out : List Rune} (h : Recast rs out)
    (hrs : ∀ r ∈ rs, endsWord r = false) : ∀ r ∈ out, endsWord r = false := by
  induction h with
  | nil => simp
  | inert _ _ ih =>
    rw [List.forall_mem_cons] at hrs ⊢
    exact ⟨hrs.1, ih hrs.2⟩
  | free _ _ _ hfree _ _ ih =>
    rw [List.forall_mem_append] at hrs ⊢
    exact ⟨fun r hr => endsWord_of_isFree (hfree r hr), ih hrs.2⟩

/-- What begins a number is inert, so it stood there before. -/
theorem beginsNumber_of_recast {rs out : List Rune} (h : Recast rs out)
    (hout : BeginsNumber out) : BeginsNumber rs := by
  obtain ⟨sign, point, digit, rest, rfl, hsign, hpoint, hdigit⟩ := hout
  obtain ⟨rs₁, hrs, hunsigned⟩ : ∃ rs₁, rs = sign ++ rs₁ ∧
      Recast rs₁ (point ++ digit :: rest) := by
    rcases hsign with rfl | rfl
    · exact ⟨rs, rfl, by simpa using h⟩
    · exact h.of_inert (by decide) (by simp)
  obtain ⟨rs₂, hrs₁, hdigits⟩ : ∃ rs₂, rs₁ = point ++ rs₂ ∧ Recast rs₂ (digit :: rest) := by
    rcases hpoint with rfl | rfl
    · exact ⟨rs₁, rfl, hunsigned⟩
    · exact hunsigned.of_inert (by decide) rfl
  obtain ⟨rs₃, hrs₂, -⟩ := hdigits.of_inert (isInert_of_isDigit hdigit) rfl
  exact ⟨sign, point, digit, rs₃, by rw [hrs, hrs₁, hrs₂, List.append_assoc], hsign, hpoint,
    hdigit⟩

/-- The letter of a truth value is spelled as itself only. -/
theorem truthSpellings_letter : ∀ b, ∀ spelling ∈ truthSpellings b, ∃ e,
    spelling = [.char '#', e] ∧ isInert e = false ∧ e.code < 0x80 ∧ e ∉ respelled := by
  intro b spelling hspelling
  cases b with
  | true =>
    simp only [truthSpellings, if_true, List.mem_cons, List.not_mem_nil, or_false] at hspelling
    rcases hspelling with rfl | rfl
    · exact ⟨.char 't', rfl, by decide, by decide, by decide⟩
    · exact ⟨.char 'T', rfl, by decide, by decide, by decide⟩
  | false =>
    simp only [truthSpellings, Bool.false_eq_true, if_false, List.mem_cons, List.not_mem_nil,
      or_false] at hspelling
    rcases hspelling with rfl | rfl
    · exact ⟨.char 'f', rfl, by decide, by decide, by decide⟩
    · exact ⟨.char 'F', rfl, by decide, by decide, by decide⟩

/-- The canonical form of a spelling is a spelling. -/
theorem IsSpelling.nfc {t : Text} (h : IsSpelling t) : IsSpelling t.nfc := by
  have hrecast := Text.recast_nfc fun r hr => isClear_of_endsWord (h.unbroken r hr)
  refine ⟨fun hnil => ?_, endsWord_of_recast hrecast h.unbroken, fun hquote => ?_,
    fun hnumber => h.notNumber (beginsNumber_of_recast hrecast hnumber), fun b htruth => ?_⟩
  · have hrunes := hrecast.eq_nil (by rw [hnil]; rfl)
    have htext := Text.ofRunes_runes t
    rw [hrunes] at htext
    exact h.nonempty htext.symm
  · obtain ⟨rest, hrest⟩ := List.head?_eq_some_iff.mp hquote
    obtain ⟨rs, hrs, -⟩ := hrecast.of_inert (by decide) hrest
    exact h.unquoted (by rw [hrs]; rfl)
  · obtain ⟨e, hspelling, hletter, hascii, hrespelled⟩ := truthSpellings_letter b _ htruth
    obtain ⟨rs, hrs, hrest⟩ := hrecast.of_inert (by decide) hspelling
    have hsame : t.runes = t.nfc.runes := by
      rw [hrs, hspelling, hrest.of_singleton hletter hascii hrespelled rfl]
    exact h.notTruth b (hsame ▸ htruth)

end Spelling

/-! ### Tokens -/

/-- A number that is parsed is finite if it is not infinite: no numeral is read as a number that is
none. -/
theorem isFinite_of_parse? {t : Text} {n : Float} (h : Decimal.parse? t = some n)
    (hinf : n.isInf = false) : n.isFinite = true := by
  obtain ⟨numeral, -, rfl⟩ := Option.map_eq_some_iff.mp h
  have hle := Decimal.Width.nearestDecimal_double_le numeral.digits numeral.power
  rw [← Bool.not_eq_true, Decimal.isInf_iff] at hinf
  rw [Decimal.isFinite_iff]
  rw [Decimal.Numeral.value, Decimal.toNat_toBits_nearest, Decimal.Width.signed] at hinf ⊢
  rw [Decimal.Width.infinite_double] at hle
  rw [Decimal.Width.signBit_double] at hinf ⊢
  split_ifs at hinf ⊢ <;> omega

section Part

variable {source : Text} {front part behind : List Rune}
  (hrunes : source.runes = front ++ (part ++ behind))
include hrunes

/-- Runes in a source are decoded alike on their own. -/
theorem runes_part : (Text.ofRunes part).runes = part :=
  Text.runes_ofRunes_front (Text.runes_ofRunes_back hrunes)

/-- The text of some runes of a source is a part of it. -/
theorem ofRunes_part_isInfix : Text.ofRunes part <:+: source := by
  refine ⟨Text.ofRunes front, Text.ofRunes behind, ?_⟩
  rw [← Text.ofRunes_append, ← Text.ofRunes_append, List.append_assoc, ← hrunes,
    Text.ofRunes_runes]

/-- A quote among the bytes is one among the runes. -/
theorem quote_not_mem (h : .char '"' ∉ part) : 34 ∉ Text.ofRunes part := by
  intro hmem
  obtain ⟨before, after, hsplit⟩ := List.append_of_mem hmem
  have hdecoded := runes_part hrunes
  rw [hsplit, Text.runes_append_ascii before (by decide) after] at hdecoded
  have hquote : .char '"' ∈ part := by
    rw [← hdecoded]
    exact List.mem_append_right _ (List.mem_cons_self ..)
  exact h hquote

end Part

/-- A spelling whose canonical form is settled names a readable symbol. -/
theorem isDatum_symbol {t : Text} (hspelling : IsSpelling t) (hsettled : t.nfc.nfc = t.nfc) :
    IsDatum (.symbol t) := by
  have hname := hspelling.nfc
  exact .sym ⟨hsettled, hname.nonempty, hname.unbroken, hname.unquoted, hname.notNumber,
    hname.notTruth⟩

/-- The value of a token in a source is data. -/
theorem IsToken.isDatum {source : Text} {front written behind more : List Rune} {t : Token}
    {v : Value} (htoken : IsToken written behind t)
    (hrunes : source.runes = front ++ (written ++ more)) (hsettles : SettlesSpellings source)
    (hvalue : t.value? = some v) : IsDatum v := by
  cases htoken with
  | number _ _ hparse hinf =>
    cases hvalue
    exact .num (isFinite_of_parse? hparse hinf)
  | truth =>
    cases hvalue
    exact .bool _
  | @string contents _ hquote =>
    cases hvalue
    have hinner : source.runes =
        (front ++ [.char '"']) ++ (contents ++ (.char '"' :: more)) := by simp [hrunes]
    exact .str (quote_not_mem hinner hquote)
  | opening => cases hvalue
  | closing => cases hvalue
  | symbol hne hwritten _ hnumber htruth hquote =>
    cases hvalue
    have hdecoded := runes_part hrunes
    have hspelling : IsSpelling (Text.ofRunes written) := by
      refine ⟨fun hnil => hne ?_, ?_, ?_, ?_, ?_⟩
      · rw [← hdecoded, hnil]
        rfl
      all_goals rwa [hdecoded]
    exact isDatum_symbol hspelling (hsettles _ (ofRunes_part_isInfix hrunes) hspelling)

/-! ### Forms -/

/-- The symbol in front of blocks is a datum. -/
theorem isDatum_do : IsDatum (.symbol (text "do")) := by
  refine .sym ⟨rfl, by decide, by decide, by decide, ?_, by decide⟩
  exact fun hbegins => absurd (numeral?_eq_none_iff.mp rfl) (not_not_intro hbegins)

/-- So is whatever a bracket begins with. -/
theorem isDatum_head (e : Enclosure) : ∀ v ∈ e.head, IsDatum v := by
  cases e with
  | list => simp [Enclosure.head]
  | block => simpa [Enclosure.head] using isDatum_do

/-- The values of the lexemes of a source are data. -/
theorem Lexes.isDatum {source : Text} (hsettles : SettlesSpellings source)
    {front rs more : List Rune} {ls : List Lexeme} (h : Lexes rs ls)
    (hrunes : source.runes = front ++ (rs ++ more)) :
    ∀ l ∈ ls, ∀ v, l.token.value? = some v → IsDatum v := by
  induction h generalizing front with
  | blank => simp
  | @token blanks written behind t ls _ htoken _ ih =>
    intro l hl v hvalue
    rcases List.mem_cons.mp hl with rfl | hl
    · have hsplit : source.runes = (front ++ blanks) ++ (written ++ (behind ++ more)) := by
        simp [hrunes]
      exact htoken.isDatum hsplit hsettles hvalue
    · have hsplit : source.runes = (front ++ (blanks ++ written)) ++ (behind ++ more) := by
        simp [hrunes]
      exact ih hsplit l hl v hvalue

/-- Data nest into data. -/
theorem Forest.isDatum {ls : List Lexeme} {vs : List Value} (h : Forest ls vs)
    (hleaves : ∀ l ∈ ls, ∀ v, l.token.value? = some v → IsDatum v) : ∀ v ∈ vs, IsDatum v := by
  induction h with
  | nil => simp
  | leaf hvalue _ _ ih =>
    rw [List.forall_mem_cons] at hleaves ⊢
    exact ⟨hleaves.1 _ hvalue, ih hleaves.2⟩
  | @enclosed _ _ e inner ls _ _ _ _ ihinner ihls =>
    have hinner := ihinner fun l hl => hleaves l (by simp [hl])
    have hrest := ihls fun l hl => hleaves l (by simp [hl])
    refine List.forall_mem_cons.mpr ⟨.list fun v hv => ?_, hrest⟩
    rcases List.mem_append.mp hv with hv | hv
    · exact isDatum_head e v hv
    · exact hinner v hv
  | @call spaced _ name inner ls _ _ _ _ ihinner ihls =>
    have hname : IsDatum (.symbol name) := hleaves ⟨spaced, .symbol name⟩ (by simp) _ rfl
    have hinner := ihinner fun l hl => hleaves l (by simp [hl])
    have hrest := ihls fun l hl => hleaves l (by simp [hl])
    exact List.forall_mem_cons.mpr ⟨.list (List.forall_mem_cons.mpr ⟨hname, hinner⟩), hrest⟩

/-! ### Sources -/

/-- The runes in front of the place where reading ends spell the forms that were read, whether
there is an error or not. -/
theorem expressions_spell (i : Input) :
    ∃ taken, i.rest = taken ++ (expressions i).behind.rest ∧
      Spells taken (expressions i).behind.rest (expressions i).forms := by
  induction i using expressions_induction with
  | atEnd i hnil =>
    obtain ⟨blanks, hi, hblanks, -⟩ := skipBlanks_spec i
    rw [expressions_of_atEnd hnil]
    exact ⟨blanks, hi, by simpa using (spells_nil _).skip hblanks⟩
  | error i err hne herror =>
    obtain ⟨blanks, hi, hblanks, -⟩ := skipBlanks_spec i
    rw [expressions_of_error hne herror]
    exact ⟨blanks, hi, by simpa using (spells_nil _).skip hblanks⟩
  | ok i v behind hok ih =>
    have htells := expression_tells i
    rw [hok] at htells
    obtain ⟨taken, htaken, hone⟩ := htells
    obtain ⟨more, hmore, hrest⟩ := ih
    rw [expressions_of_ok hok]
    rw [hmore] at hone
    exact ⟨taken ++ more, by rw [htaken, hmore, List.append_assoc]; rfl, hone.append hrest⟩

/-- Whatever a reader of a source reads, up to the end or to an error, is data. -/
theorem forms_are_data (source : Text) (r : Reader) (hsettles : SettlesSpellings source) :
    ∀ v ∈ (r.readAll source).1, IsDatum v := by
  obtain ⟨taken, hrest, hspells⟩ := expressions_spell (r.input source)
  obtain ⟨ls, hlexes, hforest⟩ := hspells.derives List.nil_prefix no_blanks
  rw [List.append_nil] at hlexes
  have hsettles' : SettlesSpellings (source.drop r.place.offset) :=
    fun t ht => hsettles t (ht.trans (List.drop_suffix ..).isInfix)
  have hrunes : Text.runes (source.drop r.place.offset) = [] ++ (taken ++ _) := hrest
  exact hforest.isDatum (hlexes.isDatum hsettles' hrunes)

/-- Whether spellings are settled is a matter of the finitely many parts of a source. -/
theorem settlesSpellings_of_tails {source : Text}
    (h : ∀ u ∈ source.tails, ∀ t ∈ u.inits, Text.nfc (Text.nfc t) = Text.nfc t) :
    SettlesSpellings source := by
  intro t ht _
  obtain ⟨u, hfront, hbehind⟩ := List.infix_iff_prefix_suffix.mp ht
  exact h u ((List.mem_tails u source).mpr hbehind) t ((List.mem_inits t u).mpr hfront)

/-- A list with a symbol that is spelled with a mark stands in front of a stray bracket. The symbol
has the name that composes the mark. -/
theorem forms_are_data_beside_error :
    SettlesSpellings (text "(e\u0301 \"x\") )") ∧
    (Reader.new.readAll (text "(e\u0301 \"x\") )")).2.1.isSome = true ∧
    (Reader.new.readAll (text "(e\u0301 \"x\") )")).1 =
      [.list [.sym (text "\u00E9"), .str (text "x")]] ∧
    IsDatum (.list [.sym (text "\u00E9"), .str (text "x")]) := by
  have hsettles : SettlesSpellings (text "(e\u0301 \"x\") )") :=
    settlesSpellings_of_tails (by decide +kernel)
  have hname : Text.nfc (text "e\u0301") = text "\u00E9" := by decide +kernel
  have hforms : (Reader.new.readAll (text "(e\u0301 \"x\") )")).1 =
      [.list [.sym (Text.nfc (text "e\u0301")), .str (text "x")]] := by rfl
  rw [hname] at hforms
  have hdata := forms_are_data (text "(e\u0301 \"x\") )") Reader.new hsettles
  rw [hforms] at hdata
  exact ⟨hsettles, by rfl, hforms, hdata _ (List.mem_singleton_self _)⟩

end Lisplet.Reader
