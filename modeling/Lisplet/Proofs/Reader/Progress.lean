import Lisplet.Proofs.Decimal.RoundTrip
import Lisplet.Proofs.Reader.Brackets

/-!
# Reading moves forward

A reader of forms moves over the runes of its input one by one and never back. If it gives a result,
it has moved over at least one rune. If it fails, then the error names a place that was met on the
way, and so does a note that mentions a place.
-/

namespace Lisplet

/-! ### Notes that mention a place -/

/-- A note that mentions a line and a column. -/
def mentioning (front : Text) (line column : Nat) : Text :=
  front ++ text " at line " ++ Text.ofNat line ++ text ", col " ++ Text.ofNat column

/-- A text without a digit at its end. -/
def EndsPlain (t : Text) : Prop := ∀ b ∈ t.getLast?, Text.isDigit b = false

/-- Only the last byte of a text counts. -/
theorem endsPlain_append {t : Text} {b : UInt8} (h : t.getLast? = some b)
    (hb : Text.isDigit b = false) (front : Text) : EndsPlain (front ++ t) := by
  intro b' hb'
  rw [List.getLast?_append, h] at hb'
  obtain rfl := Option.some.inj hb'
  exact hb

/-- The digits at the end of a text are told by the text. -/
theorem digits_append_inj {front front' digits digits' : Text}
    (h : front ++ digits = front' ++ digits') (hdigits : Decimal.AllDigits digits)
    (hdigits' : Decimal.AllDigits digits') (hfront : EndsPlain front)
    (hfront' : EndsPlain front') : front = front' ∧ digits = digits' := by
  have hnone : ∀ {t more : Text}, EndsPlain (t ++ more) → Decimal.AllDigits more → more = [] := by
    intro t more hplain hmore
    cases hlast : more.getLast? with
    | none => exact List.getLast?_eq_none_iff.mp hlast
    | some b =>
      have hdigit := hmore b (List.mem_of_getLast? hlast)
      rw [hplain b (by simp [hlast])] at hdigit
      cases hdigit
  rcases List.append_eq_append_iff.mp h with ⟨more, rfl, rfl⟩ | ⟨more, rfl, rfl⟩
  · obtain rfl := hnone hfront' fun b hb => hdigits b (List.mem_append_left _ hb)
    simp
  · obtain rfl := hnone hfront fun b hb => hdigits' b (List.mem_append_left _ hb)
    simp

/-- A note tells which line and column it mentions. -/
theorem mentioning_inj {front front' : Text} {line line' column column' : Nat}
    (h : mentioning front line column = mentioning front' line' column') :
    line = line' ∧ column = column' := by
  have hcolumn : ∀ t, EndsPlain (t ++ text ", col ") :=
    endsPlain_append rfl (by decide)
  have hline : ∀ t, EndsPlain (t ++ text " at line ") :=
    endsPlain_append rfl (by decide)
  have hofNat : ∀ {m n : Nat}, Text.ofNat m = Text.ofNat n → m = n := by
    intro m n hmn
    rw [← Decimal.digitsValue_ofNat m, hmn, Decimal.digitsValue_ofNat]
  obtain ⟨hfront, hdigits⟩ := digits_append_inj h (Decimal.allDigits_ofNat column)
    (Decimal.allDigits_ofNat column') (hcolumn _) (hcolumn _)
  obtain ⟨-, hdigits'⟩ := digits_append_inj (List.append_cancel_right hfront)
    (Decimal.allDigits_ofNat line) (Decimal.allDigits_ofNat line') (hline _) (hline _)
  exact ⟨hofNat hdigits', hofNat hdigits⟩

/-- A note that does not end with a digit mentions no place. -/
theorem EndsPlain.ne_mentioning {note : Text} (h : EndsPlain note) (front : Text)
    (line column : Nat) : note ≠ mentioning front line column := by
  rintro rfl
  have hlast := List.getLast?_eq_some_getLast (Decimal.ofNat_ne_nil column)
  have hdigit := Decimal.allDigits_ofNat column _ (List.mem_of_getLast? hlast)
  rw [h _ (by simp [mentioning, hlast])] at hdigit
  cases hdigit

/-! ### Inputs on the way -/

/-- Runes may be passed part by part. -/
theorem Position.afterAll_append (p : Position) (rs more : List Rune) :
    p.afterAll (rs ++ more) = (p.afterAll rs).afterAll more :=
  List.foldl_append

namespace Input

/-- The second input is what is left of the first behind some of its runes. -/
def Leads (i j : Input) : Prop :=
  ∃ taken, i.rest = taken ++ j.rest ∧ j.place = i.place.afterAll taken

/-- Every input is on the way from itself. -/
theorem Leads.refl (i : Input) : i.Leads i := ⟨[], rfl, rfl⟩

/-- What is on the way from an input on the way is on the way. -/
theorem Leads.trans {i j k : Input} (hij : i.Leads j) (hjk : j.Leads k) : i.Leads k := by
  obtain ⟨taken, hrest, hplace⟩ := hij
  obtain ⟨taken', hrest', hplace'⟩ := hjk
  refine ⟨taken ++ taken', ?_, ?_⟩
  · rw [hrest, hrest', List.append_assoc]
  · rw [hplace', hplace, Position.afterAll_append]

/-- No runes are added on the way. -/
theorem Leads.length_le {i j : Input} (h : i.Leads j) : j.rest.length ≤ i.rest.length := by
  obtain ⟨taken, hrest, -⟩ := h
  rw [hrest, List.length_append]
  omega

/-- Behind some of its runes an input goes on. -/
theorem leads_of_append {i : Input} (taken : List Rune) {behind : List Rune}
    (h : i.rest = taken ++ behind) : i.Leads ⟨i.place.afterAll taken, behind⟩ :=
  ⟨taken, h, rfl⟩

/-- Runes of a kind are passed over. -/
theorem leads_span (i : Input) (p : Rune → Bool) : i.Leads (i.span p).2 :=
  leads_of_append _ List.takeWhile_append_dropWhile.symm

/-- White space is passed over. -/
theorem leads_skipBlanks (i : Input) : i.Leads i.skipBlanks := i.leads_span Rune.isBlank

/-- One rune is passed over, if there is one. -/
theorem leads_advance (i : Input) : i.Leads i.advance := by
  cases hrest : i.rest with
  | nil =>
    have hstays : i.advance = i := by simp [advance, hrest]
    rw [hstays]
    exact .refl i
  | cons r rest =>
    have hmoves : i.advance = ⟨i.place.after r, rest⟩ := by simp [advance, hrest]
    rw [hmoves]
    exact leads_of_append [r] hrest

/-- An input that looks at a character is not at its end. -/
theorem rest_ne_nil {i : Input} {c : Char} (h : i.looksAt c = true) : i.rest ≠ [] := by
  intro hnil
  simp [Reader.looksAt_eq_true_iff, hnil] at h

/-- To advance takes a rune. -/
theorem length_advance {i : Input} (h : i.rest ≠ []) :
    i.advance.rest.length < i.rest.length := by
  obtain ⟨r, rest, hrest⟩ := List.exists_cons_of_ne_nil h
  simp [advance, hrest]

end Input

namespace Reader

/-! ### What a reader gives back -/

/-- An error names the place of an input on the way, and its note mentions no other places. -/
structure Blames (i : Input) (e : ReadError) : Prop where
  /-- The error names the place of an input on the way. -/
  located : ∃ k : Input, i.Leads k ∧ e.offset = k.place.offset ∧ e.line = k.place.line ∧
    e.column = k.place.column
  /-- The note mentions only places of inputs on the way. -/
  mentioned : ∀ front line column, e.note = mentioning front line column →
    ∃ k : Input, i.Leads k ∧ k.place.line = line ∧ k.place.column = column

/-- A result with an input further on, or an error that names a place on the way. -/
def Proceeds {α : Type} (i : Input) : Reading α → Prop
  | .ok (_, behind) => i.Leads behind ∧ behind.rest.length < i.rest.length
  | .error e => Blames i e

/-- What is blamed further on is blamed from the start. -/
theorem Blames.from_earlier {i j : Input} {e : ReadError} (h : Blames j e) (hlead : i.Leads j) :
    Blames i e where
  located := by
    obtain ⟨k, hk, hplace⟩ := h.located
    exact ⟨k, hlead.trans hk, hplace⟩
  mentioned front line column hnote := by
    obtain ⟨k, hk, hplace⟩ := h.mentioned front line column hnote
    exact ⟨k, hlead.trans hk, hplace⟩

/-- A reader that proceeds from further on proceeds from the start. -/
theorem Proceeds.from_earlier {α : Type} {i j : Input} {result : Reading α}
    (h : Proceeds j result) (hlead : i.Leads j) : Proceeds i result := by
  cases result with
  | error e => exact Blames.from_earlier h hlead
  | ok read => exact ⟨hlead.trans h.1, h.2.trans_le hlead.length_le⟩

/-- An error where the reader stands, with a note that mentions no place. -/
theorem blames_located {i : Input} {note : Text} (h : EndsPlain note) (kind : ReadErrorKind) :
    Blames i (.located kind i.place note) where
  located := ⟨i, .refl i, rfl, rfl, rfl⟩
  mentioned front line column hnote := absurd hnote (h.ne_mentioning front line column)

/-- An empty text ends without a digit. -/
theorem endsPlain_nil : EndsPlain [] := by simp [EndsPlain]

/-- The error for an input that ended too early names the place where it began. -/
theorem blames_ranOut (i : Input) (kind : ReadErrorKind) : Blames i (.ranOut kind i.place) where
  located := ⟨i, .refl i, rfl, rfl, rfl⟩
  mentioned front line column hnote :=
    absurd hnote (endsPlain_nil.ne_mentioning front line column)

/-- The error for a wrong closing bracket names the place of the opening one and mentions its
own. -/
theorem blames_wrongCloser {i k : Input} (h : i.Leads k) (b : Bracket) (r : Rune) :
    Blames i (wrongCloser b i.place r k.place) where
  located := ⟨i, .refl i, rfl, rfl, rfl⟩
  mentioned front line column hnote := by
    have hown : (wrongCloser b i.place r k.place).note =
        mentioning (text "unexpected " ++ r.quoted) k.place.line k.place.column := rfl
    obtain ⟨hline, hcolumn⟩ := mentioning_inj (hown.symm.trans hnote)
    exact ⟨k, h, hline, hcolumn⟩

/-- A note on an unexpected rune mentions no place. -/
theorem endsPlain_unexpected (r : Rune) : EndsPlain (text "unexpected " ++ r.quoted) := by
  rw [Rune.quoted, ← List.append_assoc]
  exact endsPlain_append rfl (by decide) _

/-! ### Readers of tokens -/

/-- The reader of numbers. -/
theorem number_proceeds (i : Input) : Proceeds i (number i) := by
  rw [number]
  cases hnumeral : numeral? i.rest with
  | none => exact blames_located endsPlain_nil _
  | some written =>
    simp only
    split_ifs with hpoints hinf
    · exact blames_located (endsPlain_append rfl (by decide) []) _
    · exact blames_located (endsPlain_append rfl (by decide) _) _
    · obtain ⟨behind, hrest, hnumeral⟩ := numeral?_eq_some_iff.mp hnumeral
      obtain ⟨front, more, rfl, hne, -⟩ := hnumeral.1.front
      rw [hrest, List.drop_left]
      refine ⟨Input.leads_of_append _ hrest, ?_⟩
      have hlength := List.length_pos_of_ne_nil hne
      simp only [hrest, List.length_append]
      omega

/-- The reader of truth values. -/
theorem boolean_proceeds (i : Input) : Proceeds i (boolean i) := by
  have hdeclines : Proceeds i (.error (.located .notABoolean i.place []) : Reading Value) :=
    blames_located endsPlain_nil _
  rw [boolean]
  split
  · rename_i hash letter rest hrest
    split
    · split_ifs
      · exact ⟨Input.leads_of_append [hash, letter] hrest, by simp [hrest]⟩
      · exact hdeclines
    · exact hdeclines
  · exact hdeclines

/-- The reader of strings. -/
theorem string_proceeds (i : Input) : Proceeds i (string i) := by
  rw [string]
  split_ifs with hlooks
  · have hlead := i.leads_advance.trans (i.advance.leads_span fun r => !r.isChar '"')
    have hlength := (i.advance.leads_span fun r => !r.isChar '"').length_le
    have hshorter := Input.length_advance (Input.rest_ne_nil hlooks)
    simp only
    split_ifs
    · exact blames_ranOut i _
    · refine ⟨hlead.trans (Input.leads_advance _), ?_⟩
      have hlast := (Input.leads_advance (i.advance.span fun r => !r.isChar '"').2).length_le
      omega
  · exact blames_located endsPlain_nil _

/-- The reader of symbols. -/
theorem symbol_proceeds (i : Input) : Proceeds i (symbol i) := by
  rw [symbol]
  simp only
  split_ifs with hempty
  · exact blames_located (endsPlain_unexpected _) _
  · refine ⟨i.leads_span _, ?_⟩
    have hsplit := List.takeWhile_append_dropWhile (p := fun r => !isBoundary r) (l := i.rest)
    have hne : i.rest.takeWhile (fun r => !isBoundary r) ≠ [] := by
      simpa [Input.span] using hempty
    have hlength := congrArg List.length hsplit
    rw [List.length_append] at hlength
    have hpos := List.length_pos_of_ne_nil hne
    simp only [Input.span]
    omega

/-! ### Readers of bracketed forms -/

section Bracketed

variable {item : Input → Reading Value} (hitem : ∀ i, Proceeds i (item i))
include hitem

/-- Reading the items of a bracket moves on from the bracket. -/
theorem itemsFrom_proceeds (b : Bracket) {opened i : Input} (h : opened.Leads i)
    (hlength : i.rest.length < opened.rest.length) (fuel : Nat) :
    Proceeds opened (itemsFrom item b opened.place fuel i) := by
  induction fuel generalizing i with
  | zero => exact blames_ranOut opened _
  | succ fuel ih =>
    have hfront : opened.Leads i.skipBlanks := h.trans i.leads_skipBlanks
    have hle := i.leads_skipBlanks.length_le
    rw [itemsFrom]
    split
    · exact blames_ranOut opened _
    · rename_i r rest hrest
      split_ifs
      · refine ⟨hfront.trans (Input.leads_advance _), ?_⟩
        have hadvance := i.skipBlanks.leads_advance.length_le
        omega
      · exact blames_wrongCloser hfront b r
      · have hproceeds := hitem i.skipBlanks
        cases hresult : item i.skipBlanks with
        | error e =>
          rw [hresult] at hproceeds
          exact Blames.from_earlier hproceeds hfront
        | ok read =>
          obtain ⟨v, behind⟩ := read
          rw [hresult] at hproceeds
          obtain ⟨hlead, hshorter⟩ := hproceeds
          have hmore := ih (hfront.trans hlead) (by omega)
          simp only
          cases hitems : itemsFrom item b opened.place fuel behind with
          | error e =>
            rw [hitems] at hmore
            exact hmore
          | ok read =>
            rw [hitems] at hmore
            exact hmore

/-- The reader of a bracket proceeds if that of its items does. -/
theorem sequence_proceeds (b : Bracket) (i : Input) : Proceeds i (sequence item b i) := by
  rw [sequence]
  split_ifs with hlooks
  · have hshorter := Input.length_advance (Input.rest_ne_nil hlooks)
    exact itemsFrom_proceeds hitem b i.leads_advance hshorter _
  · exact blames_located endsPlain_nil _

omit hitem in
/-- Making a list of items does not move. -/
theorem enclose_proceeds {i : Input} {items : Reading (List Value)} (h : Proceeds i items)
    (head : List Value) : Proceeds i (enclose head items) := by
  cases items with
  | error e => exact h
  | ok read => exact h

/-- The reader of calls. -/
theorem call_proceeds (i : Input) : Proceeds i (call item i) := by
  have hsymbol := symbol_proceeds i
  rw [call]
  cases hresult : symbol i with
  | error e => exact blames_located endsPlain_nil _
  | ok read =>
    obtain ⟨name, behind⟩ := read
    rw [hresult] at hsymbol
    simp only
    split_ifs with hlooks
    · have hitems := (sequence_proceeds hitem .round behind).from_earlier hsymbol.1
      cases hsequence : sequence item .round behind with
      | error e =>
        rw [hsequence] at hitems
        exact hitems
      | ok read =>
        rw [hsequence] at hitems
        exact hitems
    · exact blames_located endsPlain_nil _

/-- All readers of forms proceed. -/
theorem productions_proceed (i : Input) :
    ∀ production ∈ productions item, Proceeds i (production i) := by
  simp only [productions, List.forall_mem_cons, List.not_mem_nil, IsEmpty.forall_iff, implies_true,
    and_true, list_eq_enclose, block_eq_enclose]
  exact ⟨number_proceeds i, boolean_proceeds i, string_proceeds i,
    enclose_proceeds (sequence_proceeds hitem .round i) _,
    enclose_proceeds (sequence_proceeds hitem .brace i) _, call_proceeds hitem i,
    symbol_proceeds i⟩

end Bracketed

/-- The first of some readers proceeds if all of them do. -/
theorem firstOf_proceeds {i : Input} {productions : List (Input → Reading Value)}
    (h : ∀ production ∈ productions, Proceeds i (production i)) :
    Proceeds i (firstOf i productions) := by
  induction productions with
  | nil => exact blames_located (endsPlain_unexpected _) _
  | cons production rest ih =>
    rw [List.forall_mem_cons] at h
    by_cases hdeclines : Declines (production i)
    · rw [firstOf_of_declines hdeclines]
      exact ih h.2
    · rw [firstOf_of_not_declines hdeclines]
      exact h.1

/-- The reader of forms proceeds, however deep it may go. -/
theorem formWithin_proceeds (depth : Nat) (i : Input) : Proceeds i (formWithin depth i) := by
  induction depth generalizing i with
  | zero => exact firstOf_proceeds (by simp)
  | succ depth ih => exact firstOf_proceeds (productions_proceed ih i)

/-! ### Readers of sources -/

/-- The reader of expressions proceeds. -/
theorem expression_proceeds (i : Input) : Proceeds i (expression i) := by
  refine Proceeds.from_earlier ?_ i.leads_skipBlanks
  rw [expression]
  split
  · exact blames_located (endsPlain_append rfl (by decide) []) _
  · split_ifs
    · exact blames_located (endsPlain_unexpected _) _
    · exact blames_located (endsPlain_unexpected _) _
    · exact formWithin_proceeds _ _

/-! ### Expressions one after the other -/

/-- The forms of one part of a source and then those of the rest, which tells how the reading
ends. -/
def Forms.prepend (vs : List Value) (f : Forms) : Forms := { f with forms := vs ++ f.forms }

/-- Each expression takes at least one rune, so more fuel than runes is of no use. -/
theorem expressionsFrom_succ {fuel : Nat} {i : Input} (h : i.rest.length ≤ fuel) :
    expressionsFrom (fuel + 1) i = expressionsFrom fuel i := by
  induction fuel generalizing i with
  | zero =>
    have hnil : i.rest = [] := List.eq_nil_of_length_eq_zero (by omega)
    have hend : i.skipBlanks.atEnd = true := by
      simp [Input.skipBlanks, Input.span, Input.atEnd, hnil]
    simp only [expressionsFrom, hend, if_true]
  | succ fuel ih =>
    have hproceeds := expression_proceeds i.skipBlanks
    have hle := i.leads_skipBlanks.length_le
    rw [expressionsFrom, expressionsFrom]
    cases hresult : expression i.skipBlanks with
    | error e => rfl
    | ok read =>
      obtain ⟨v, behind⟩ := read
      rw [hresult] at hproceeds
      have hshorter : behind.rest.length ≤ fuel := by
        have := hproceeds.2
        omega
      simp only [ih hshorter]

/-- With enough fuel all expressions are read. -/
theorem expressionsFrom_eq {fuel : Nat} {i : Input} (h : i.rest.length ≤ fuel) :
    expressionsFrom fuel i = expressions i := by
  induction fuel with
  | zero =>
    have hnil : i.rest.length = 0 := by omega
    rw [expressions, hnil]
  | succ fuel ih =>
    by_cases hlast : i.rest.length = fuel + 1
    · rw [expressions, hlast]
    · rw [expressionsFrom_succ (by omega), ih (by omega)]

/-- There are no expressions in white space. -/
theorem expressions_of_atEnd {i : Input} (h : i.skipBlanks.rest = []) :
    expressions i = ⟨[], none, i.skipBlanks⟩ := by
  have hend : i.skipBlanks.atEnd = true := by simp [Input.atEnd, h]
  rw [expressions, ← expressionsFrom_succ le_rfl, expressionsFrom]
  simp only [hend, if_true]

/-- The first error ends the expressions. -/
theorem expressions_of_error {i : Input} {e : ReadError} (h : i.skipBlanks.rest ≠ [])
    (herror : expression i = .error e) : expressions i = ⟨[], some e, i.skipBlanks⟩ := by
  have hend : i.skipBlanks.atEnd = false := by simpa [Input.atEnd] using h
  rw [← expression_skipBlanks] at herror
  rw [expressions, ← expressionsFrom_succ le_rfl, expressionsFrom]
  simp only [hend, herror, Bool.false_eq_true, if_false]

/-- The first expression stands in front of all others. -/
theorem expressions_of_ok {i behind : Input} {v : Value} (h : expression i = .ok (v, behind)) :
    expressions i = (expressions behind).prepend [v] := by
  have hne : i.skipBlanks.rest ≠ [] := by
    intro hnil
    rw [expression, hnil] at h
    cases h
  have hend : i.skipBlanks.atEnd = false := by simpa [Input.atEnd] using hne
  have hproceeds := expression_proceeds i
  rw [h] at hproceeds
  have hfuel := expressionsFrom_eq (Nat.le_of_lt hproceeds.2)
  rw [← expression_skipBlanks] at h
  rw [expressions, ← expressionsFrom_succ le_rfl, expressionsFrom]
  simp only [hend, h, hfuel, Bool.false_eq_true, if_false]
  rfl

/-- Reading all expressions of an input comes to its end, meets an error or goes on behind an
expression. -/
theorem expressions_induction {motive : Input → Prop}
    (atEnd : ∀ i, i.skipBlanks.rest = [] → motive i)
    (error : ∀ i e, i.skipBlanks.rest ≠ [] → expression i = .error e → motive i)
    (ok : ∀ i v behind, expression i = .ok (v, behind) → motive behind → motive i) (i : Input) :
    motive i := by
  induction hlength : i.rest.length using Nat.strongRecOn generalizing i with
  | ind length ih =>
    by_cases hnil : i.skipBlanks.rest = []
    · exact atEnd i hnil
    · have hproceeds := expression_proceeds i
      cases hresult : expression i with
      | error e => exact error i e hnil hresult
      | ok read =>
        obtain ⟨v, behind⟩ := read
        rw [hresult] at hproceeds
        exact ok i v behind hresult (ih _ (hlength ▸ hproceeds.2) behind rfl)

/-- Reading all expressions moves on, and an error names a place on the way. -/
theorem expressions_proceed (i : Input) :
    i.Leads (expressions i).behind ∧ ∀ e, (expressions i).error = some e → Blames i e := by
  induction i using expressions_induction with
  | atEnd i hnil =>
    rw [expressions_of_atEnd hnil]
    exact ⟨i.leads_skipBlanks, by simp⟩
  | error i e hne herror =>
    have hproceeds := expression_proceeds i
    rw [herror] at hproceeds
    rw [expressions_of_error hne herror]
    refine ⟨i.leads_skipBlanks, fun e' he' => ?_⟩
    obtain rfl := Option.some.inj he'
    exact hproceeds
  | ok i v behind hok ih =>
    have hproceeds := expression_proceeds i
    rw [hok] at hproceeds
    rw [expressions_of_ok hok]
    exact ⟨hproceeds.1.trans ih.1, fun e he => (ih.2 e he).from_earlier hproceeds.1⟩

/-- Without an error all runes are read. -/
theorem rest_behind_expressions {i : Input} (h : (expressions i).error = none) :
    (expressions i).behind.rest = [] := by
  induction i using expressions_induction with
  | atEnd i hnil =>
    rw [expressions_of_atEnd hnil]
    exact hnil
  | error i e hne herror =>
    rw [expressions_of_error hne herror] at h
    cases h
  | ok i v behind hok ih =>
    rw [expressions_of_ok hok] at h ⊢
    exact ih h

end Reader

end Lisplet
