import Lisplet.Proofs.Reader.Culprit
import Lisplet.Proofs.Reader.Translation

/-!
# Forms are told by their own runes

What is read as a form is told by the runes that the form takes. Of the runes behind it only the
first one matters, and only to a form that it could continue: a number, a word or a symbol that is
not called. So a form that ends in front of the end of a source is read again, with the same place
behind it, if the source is longer, even if the longer source completes a character that was cut
off. And the forms in front of an error are read again if the source is cut off there.
-/

namespace Lisplet.Reader

/-! ### Readers of forms -/

/-- The runes `taken` in front of the runes `behind` tell a value: in front of all runes in front of
which it ends, a reader finds it again, if there are less than `room` runes. -/
structure Tell (reader : Input → Reading Value) (room : Nat) (taken behind : List Rune)
    (v : Value) : Prop where
  /-- There are such runes. -/
  ne_nil : taken ≠ []
  /-- A stray byte at the end belongs to a word, which is complete. -/
  ends : ∀ b, taken.getLast? = some (.stray b) → StopsAt (fun r => !endsWord r) behind
  /-- The value is found again. -/
  again : ∀ place other, EndsAlike behind other → (taken ++ other).length < room →
    view (reader ⟨place, taken ++ other⟩) = .ok (v, other)

/-- What one reader finds where a form may begin, another one finds again. -/
def Repeats (reader reader' : Input → Reading Value) (room : Nat) : Prop :=
  ∀ (i : Input) (v : Value) (behind : List Rune), BeginsForm i.rest →
    view (reader i) = .ok (v, behind) →
    ∃ taken, i.rest = taken ++ behind ∧ Tell reader' room taken behind v

/-- What is seen of a result is all but its place. -/
theorem view_eq_ok_iff {α : Type} {result : Reading α} {v : α} {behind : List Rune} :
    view result = .ok (v, behind) ↔ ∃ place, result = .ok (v, ⟨place, behind⟩) := by
  constructor
  · intro h
    cases result with
    | error e => cases h
    | ok read =>
      obtain ⟨v', place, rest⟩ := read
      cases h
      exact ⟨place, rfl⟩
  · rintro ⟨place, rfl⟩
    rfl

/-- A list that was read holds the items that were read. -/
theorem view_enclose_iff {head : List Value} {items : Reading (List Value)} {v : Value}
    {behind : List Rune} :
    view (enclose head items) = .ok (v, behind) ↔
      ∃ vs, view items = .ok (vs, behind) ∧ v = .list (head ++ vs) := by
  cases items with
  | error e => simp [enclose, view]
  | ok read =>
    obtain ⟨vs, last⟩ := read
    simp only [enclose, view, Except.ok.injEq, Prod.mk.injEq]
    constructor
    · rintro ⟨rfl, rfl⟩
      exact ⟨vs, ⟨rfl, rfl⟩, rfl⟩
    · rintro ⟨_, ⟨rfl, rfl⟩, rfl⟩
      exact ⟨rfl, rfl⟩

/-- White space is skipped up to a rune that is none. -/
theorem skipBlanks_append {blanks front : List Rune} (hblanks : ∀ r ∈ blanks, r.isBlank = true)
    (hfront : StopsAt Rune.isBlank front) (place : Position) :
    (⟨place, blanks ++ front⟩ : Input).skipBlanks = ⟨place.afterAll blanks, front⟩ := by
  simp only [Input.skipBlanks, Input.span, takeWhile_append_of_stopsAt hblanks hfront,
    dropWhile_append_of_stopsAt hblanks hfront]

/-- A form that ends with its closing bracket ends in front of any runes. -/
theorem tell_enclosed {reader : Input → Reading Value} {room : Nat} {e : Enclosure}
    {opening inner : List Rune} (behind : List Rune) {v : Value}
    (h : ∀ place other, (opening ++ (inner ++ .char e.bracket.closing :: other)).length < room →
      view (reader ⟨place, opening ++ (inner ++ .char e.bracket.closing :: other)⟩) =
        .ok (v, other)) :
    Tell reader room (opening ++ (inner ++ [.char e.bracket.closing])) behind v where
  ne_nil := by simp
  ends b hlast := by
    rw [← List.append_assoc, List.getLast?_concat] at hlast
    cases hlast
  again place other _ hroom := by
    have hsplit : opening ++ (inner ++ [.char e.bracket.closing]) ++ other =
        opening ++ (inner ++ .char e.bracket.closing :: other) := by simp
    rw [hsplit] at hroom ⊢
    exact h place other hroom

section Bracketed

variable {item item' : Input → Reading Value} {room : Nat} (hitem : Repeats item item' room)
include hitem

/-- The items of a bracket and its counterpart are found again in front of any runes. -/
theorem itemsFrom_repeats (e : Enclosure) {opened : Position} {fuel : Nat} {i : Input}
    {vs : List Value} {behind : List Rune}
    (h : view (itemsFrom item e.bracket opened fuel i) = .ok (vs, behind)) :
    ∃ taken, i.rest = taken ++ .char e.bracket.closing :: behind ∧
      ∀ opened' place other fuel', (taken ++ .char e.bracket.closing :: other).length < room →
        (taken ++ .char e.bracket.closing :: other).length < fuel' →
        view (itemsFrom item' e.bracket opened' fuel'
          ⟨place, taken ++ .char e.bracket.closing :: other⟩) = .ok (vs, other) := by
  induction fuel generalizing i vs with
  | zero => cases h
  | succ fuel ih =>
    obtain ⟨blanks, hi, hblanks, hfront⟩ := skipBlanks_spec i
    rw [itemsFrom] at h
    cases hrest : i.skipBlanks.rest with
    | nil =>
      rw [hrest] at h
      cases h
    | cons r rest =>
      have hr : r.isBlank = false := hfront r (by simp [hrest])
      have hstops : ∀ more, StopsAt Rune.isBlank (r :: more) := by
        intro more
        simpa [StopsAt] using hr
      simp only [hrest] at h
      split_ifs at h with hclosing hcloser
      · obtain rfl := Rune.isChar_iff.mp hclosing
        have hbehind : i.skipBlanks.advance.rest = rest := by simp [Input.advance, hrest]
        obtain ⟨rfl, rfl⟩ : vs = [] ∧ behind = rest := by
          rw [view, hbehind] at h
          cases h
          exact ⟨rfl, rfl⟩
        refine ⟨blanks, by rw [hi, hrest], fun opened' place other fuel' _ hfuel => ?_⟩
        obtain ⟨fuel', rfl⟩ := Nat.exists_eq_succ_of_ne_zero (Nat.ne_zero_of_lt hfuel)
        rw [itemsFrom, skipBlanks_append hblanks (hstops other)]
        simp [view, Input.advance]
      · cases h
      · have hbegins : BeginsForm i.skipBlanks.rest := by
          refine ⟨r, rest, hrest, hr, ?_, ?_⟩ <;> (rintro rfl; exact hcloser (by decide))
        cases hresult : item i.skipBlanks with
        | error err =>
          rw [hresult] at h
          cases h
        | ok read =>
          obtain ⟨v, between⟩ := read
          obtain ⟨taken, htaken, htell⟩ :=
            hitem i.skipBlanks v between.rest hbegins (by rw [hresult]; rfl)
          obtain ⟨first, more, rfl⟩ := List.exists_cons_of_ne_nil htell.ne_nil
          obtain ⟨rfl, -⟩ : r = first ∧ _ := by simpa [hrest] using htaken
          rw [hresult] at h
          cases hitems : itemsFrom item e.bracket opened fuel between with
          | error err =>
            simp only [hitems] at h
            cases h
          | ok read =>
            obtain ⟨ws, last⟩ := read
            obtain ⟨rfl, rfl⟩ : vs = v :: ws ∧ behind = last.rest := by
              simp only [hitems, view, Except.ok.injEq, Prod.mk.injEq] at h
              exact ⟨h.1.symm, h.2.symm⟩
            obtain ⟨inner, hinner, hagain⟩ := ih (by rw [hitems]; rfl)
            refine ⟨blanks ++ (r :: more ++ inner), by simp [hi, htaken, hinner], ?_⟩
            intro opened' place other fuel' hroom hfuel
            obtain ⟨fuel', rfl⟩ := Nat.exists_eq_succ_of_ne_zero (Nat.ne_zero_of_lt hfuel)
            simp only [List.length_append, List.length_cons] at hroom hfuel
            -- The item is found again in front of the rest of the bracket, which begins as before.
            have hsame : EndsAlike between.rest (inner ++ .char e.bracket.closing :: other) :=
              endsAlike_of_head? (by rw [hinner]; cases inner <;> rfl)
            obtain ⟨place', hfound⟩ := view_eq_ok_iff.mp
              (htell.again (place.afterAll blanks) _ hsame (by simp; omega))
            obtain ⟨place'', hmore⟩ := view_eq_ok_iff.mp
              (hagain opened' place' other fuel' (by simp; omega) (by simp; omega))
            have hsplit : blanks ++ (r :: more ++ inner) ++ .char e.bracket.closing :: other =
                blanks ++ (r :: (more ++ (inner ++ .char e.bracket.closing :: other))) := by simp
            rw [List.cons_append] at hfound
            rw [itemsFrom, hsplit, skipBlanks_append hblanks (hstops _)]
            simp only [if_neg hclosing, if_neg hcloser, hfound, hmore]
            rfl

/-- A bracketed sequence is found again in front of any runes. -/
theorem sequence_repeats (e : Enclosure) {i : Input} {rest : List Rune}
    (hi : i.rest = .char e.bracket.opening :: rest) {vs : List Value} {behind : List Rune}
    (h : view (sequence item e.bracket i) = .ok (vs, behind)) :
    ∃ inner, rest = inner ++ .char e.bracket.closing :: behind ∧
      ∀ place other, (inner ++ .char e.bracket.closing :: other).length < room →
        view (sequence item' e.bracket ⟨place, .char e.bracket.opening ::
          (inner ++ .char e.bracket.closing :: other)⟩) = .ok (vs, other) := by
  obtain ⟨start, hsequence⟩ := sequence_applies hi item
  rw [hsequence] at h
  obtain ⟨inner, hinner, hagain⟩ := itemsFrom_repeats hitem e h
  refine ⟨inner, hinner, fun place other hroom => ?_⟩
  obtain ⟨start', hsequence'⟩ := sequence_applies (b := e.bracket)
    (i := ⟨place, .char e.bracket.opening :: (inner ++ .char e.bracket.closing :: other)⟩) rfl item'
  rw [hsequence']
  exact hagain place start' other _ hroom (Nat.lt_succ_self _)

/-- A form that enters a bracket is found again, if another reader enters it in the same way. -/
theorem enclose_repeats (e : Enclosure) (front : List Rune) {inside behind : List Rune}
    {head : List Value} {v : Value} {start : Position}
    (h : view (enclose head (sequence item e.bracket
      ⟨start, .char e.bracket.opening :: inside⟩)) = .ok (v, behind))
    {reader : Input → Reading Value}
    (hreader : ∀ place rest, ∃ start', reader ⟨place, front ++ .char e.bracket.opening :: rest⟩ =
      enclose head (sequence item' e.bracket ⟨start', .char e.bracket.opening :: rest⟩)) :
    ∃ taken, front ++ .char e.bracket.opening :: inside = taken ++ behind ∧
      Tell reader (room + 1) taken behind v := by
  obtain ⟨vs, hsequence, rfl⟩ := view_enclose_iff.mp h
  obtain ⟨inner, rfl, hagain⟩ := sequence_repeats hitem e rfl hsequence
  refine ⟨front ++ [.char e.bracket.opening] ++ (inner ++ [.char e.bracket.closing]), by simp,
    tell_enclosed behind fun place other hroom => ?_⟩
  obtain ⟨start', hfirst⟩ := hreader place (inner ++ .char e.bracket.closing :: other)
  rw [List.append_assoc, List.singleton_append] at hroom ⊢
  rw [hfirst, view_enclose_iff]
  refine ⟨vs, hagain start' other ?_, rfl⟩
  simp only [List.length_append, List.length_cons] at hroom ⊢
  omega

/-- A form is found again if its items are. -/
theorem productions_repeat (hfinal : ∀ i, ¬ Declines (item i))
    (hfinal' : ∀ i, ¬ Declines (item' i)) :
    Repeats (fun i => firstOf i (productions item)) (fun i => firstOf i (productions item'))
      (room + 1) := by
  intro i v behind hform (hok : view (firstOf i (productions item)) = .ok (v, behind))
  cases hlex : lex i.rest with
  | refused =>
    obtain ⟨r, rest, hi, -⟩ := hform
    rw [view_firstOf_refused (by simp [hi]) hlex] at hok
    cases hok
  | unterminated =>
    rw [view_firstOf_unterminated hlex] at hok
    cases hok
  | token t rest =>
    obtain ⟨written, hi, htoken⟩ := isToken_of_lex hlex
    rcases token_cases t rest with ⟨w, hvalue, hcall⟩ | ⟨name, inside, rfl, rfl⟩ | ⟨e, rfl⟩ |
      ⟨e, rfl⟩
    · rw [view_firstOf_leaf hlex hvalue hcall] at hok
      cases hok
      have hne : written ≠ [] := by
        obtain ⟨r, more, rfl, -⟩ := htoken.head
        simp
      refine ⟨written, hi, hne, fun b hb => (htoken.eq_symbol hb).2,
        fun place other halike _ => ?_⟩
      exact view_firstOf_leaf (lex_of_isToken (htoken.endsAlike halike)) hvalue
        fun hname => halike.call (hcall hname)
    · obtain ⟨start, hfirst⟩ := firstOf_call hfinal hlex
      rw [hfirst] at hok
      rw [hi]
      refine enclose_repeats hitem .list written hok fun place more => ?_
      have hname : IsToken written (.char '(' :: more) (.symbol name) :=
        htoken.endsAlike (endsAlike_of_head? rfl)
      exact firstOf_call hfinal' (lex_of_isToken hname)
    · obtain ⟨hopening, hfirst⟩ := firstOf_opening hfinal hlex
      have hstart : i = ⟨i.place, .char e.bracket.opening :: rest⟩ := by rw [← hopening]
      rw [hfirst, hstart] at hok
      rw [hopening]
      refine enclose_repeats hitem e [] hok fun place more => ⟨place, ?_⟩
      exact (firstOf_opening hfinal' (lex_of_isToken .opening)).2
    · -- No form begins with a closing bracket.
      obtain ⟨r, more, hform, -, hround, hbrace⟩ := hform
      cases htoken with
      | closing =>
        obtain ⟨rfl, -⟩ : r = .char e.bracket.closing ∧ _ := by simpa [hi] using hform.symm
        cases e with
        | list => exact absurd rfl hround
        | block => exact absurd rfl hbrace

end Bracketed

/-- Where there is no room, nothing has to be found again. -/
theorem Repeats.no_room {reader reader' : Input → Reading Value} {room : Nat}
    (h : Repeats reader reader' room) (reader'' : Input → Reading Value) :
    Repeats reader reader'' 0 := by
  intro i v behind hform hok
  obtain ⟨taken, hi, htell⟩ := h i v behind hform hok
  exact ⟨taken, hi, htell.ne_nil, htell.ends, fun _ _ _ hroom => absurd hroom (Nat.not_lt_zero _)⟩

/-- A form is found again, wherever the reader nests deep enough. -/
theorem formWithin_repeats (depth depth' : Nat) :
    Repeats (formWithin depth) (formWithin depth') depth' := by
  induction depth generalizing depth' with
  | zero =>
    intro i v behind _ hok
    cases hok
  | succ depth ih =>
    have hsucc : ∀ depth', Repeats (formWithin (depth + 1)) (formWithin (depth' + 1))
        (depth' + 1) := fun depth' =>
      productions_repeat (ih depth') (not_declines_formWithin depth)
        (not_declines_formWithin depth')
    cases depth' with
    | zero => exact (hsucc 0).no_room _
    | succ depth' => exact hsucc depth'

/-! ### Readers of sources -/

/-- What a reader finds, with the place behind the runes that it took. -/
theorem eq_ok_of_view {α : Type} {i : Input} {result : Reading α} {v : α} (taken : List Rune)
    {behind : List Rune} (hi : i.rest = taken ++ behind) (hproceeds : Proceeds i result)
    (hview : view result = .ok (v, behind)) :
    result = .ok (v, ⟨i.place.afterAll taken, behind⟩) := by
  obtain ⟨place, rfl⟩ := view_eq_ok_iff.mp hview
  obtain ⟨⟨taken', hi', hplace⟩, -⟩ := hproceeds
  obtain rfl : taken = taken' := List.append_cancel_right (hi.symm.trans hi')
  rw [← hplace]

/-- An expression is told by the white space in front of it and its own runes. -/
theorem expression_repeats {i behind : Input} {v : Value} (h : expression i = .ok (v, behind)) :
    ∃ taken, i.rest = taken ++ behind.rest ∧ taken ≠ [] ∧
      (∀ b, taken.getLast? = some (.stray b) → StopsAt (fun r => !endsWord r) behind.rest) ∧
      ∀ place other, EndsAlike behind.rest other →
        expression ⟨place, taken ++ other⟩ = .ok (v, ⟨place.afterAll taken, other⟩) := by
  obtain ⟨blanks, hi, hblanks, hfront⟩ := skipBlanks_spec i
  rw [expression] at h
  cases hrest : i.skipBlanks.rest with
  | nil =>
    rw [hrest] at h
    cases h
  | cons r rest =>
    have hr : r.isBlank = false := hfront r (by simp [hrest])
    simp only [hrest] at h
    split_ifs at h with hround hbrace
    have hform : BeginsForm i.skipBlanks.rest :=
      ⟨r, rest, hrest, hr, by simpa using hround, by simpa using hbrace⟩
    have hview : view (form i.skipBlanks) = .ok (v, behind.rest) := by rw [h]; rfl
    obtain ⟨taken, htaken, htell⟩ := formWithin_repeats _ 0 _ _ _ hform hview
    have hsplit : i.rest = (blanks ++ taken) ++ behind.rest := by rw [hi, htaken, List.append_assoc]
    refine ⟨blanks ++ taken, hsplit, by simp [htell.ne_nil], fun b hb => htell.ends b ?_,
      fun place other halike => ?_⟩
    · rwa [List.getLast?_append_of_ne_nil _ htell.ne_nil] at hb
    · -- The reader nests as deep as the new source is long.
      obtain ⟨taken', htaken', htell'⟩ :=
        formWithin_repeats _ ((taken ++ other).length + 1) _ _ _ hform hview
      obtain rfl : taken = taken' := List.append_cancel_right (htaken.symm.trans htaken')
      obtain ⟨first, more, rfl⟩ := List.exists_cons_of_ne_nil htell.ne_nil
      obtain ⟨rfl, -⟩ : r = first ∧ _ := by simpa [hrest] using htaken
      have hstops : StopsAt Rune.isBlank (r :: more ++ other) := by simpa [StopsAt] using hr
      refine eq_ok_of_view (blanks ++ (r :: more)) rfl (expression_proceeds _) ?_
      rw [expression, List.append_assoc, skipBlanks_append hblanks hstops]
      simp only [List.cons_append, if_neg hround, if_neg hbrace]
      exact htell'.again _ other halike (Nat.lt_succ_self _)

/-! ### Longer sources -/

/-- Stray bytes at the end of a source and what a longer source has in their place are no boundary,
no digit and no bracket. -/
theorem endsAlike_of_stray {b : UInt8} {rest other : List Rune}
    (h : ∀ r ∈ other.head?, 128 ≤ r.code) : EndsAlike (.stray b :: rest) other where
  number _ r hr := by
    have hcode := h r hr
    by_contra hnumeral
    rw [Bool.not_eq_false, isNumeralRune, Bool.or_eq_true, Rune.isChar_iff] at hnumeral
    rcases hnumeral with hdigit | rfl
    · simp only [isDigit, Bool.and_eq_true, decide_eq_true_eq] at hdigit
      omega
    · exact absurd hcode (by decide)
  word hstop := by
    have hall : AllStray [.stray b] := by simp [AllStray]
    have hboundary : endsWord (.stray b) = false := hall.endsWord _ (by simp)
    have hnot : (!endsWord (.stray b)) = false := hstop _ (by simp)
    rw [hboundary] at hnot
    cases hnot
  call _ hhead := absurd (h _ hhead) (by decide)

/-- Where a form ends in front of the end of a source, a longer source goes on behind the same
runes, and there the form ends too. -/
theorem exists_behind_longer {source : Text} {front behind : List Rune}
    (hrunes : source.runes = front ++ behind) (hne : behind ≠ [])
    (hends : ∀ b, front.getLast? = some (.stray b) → StopsAt (fun r => !endsWord r) behind)
    (more : Text) :
    ∃ other, (source ++ more).runes = front ++ other ∧ EndsAlike behind other := by
  obtain ⟨settled, unsettled, changed, hbefore, hafter, hstray⟩ := Text.runes_append source more
  have hchanged : unsettled ≠ [] → EndsAlike unsettled changed := by
    intro hunsettled
    obtain ⟨r, rest, rfl⟩ := List.exists_cons_of_ne_nil hunsettled
    obtain ⟨b, rfl⟩ := hstray r (by simp)
    exact endsAlike_of_stray fun r hr => Text.code_of_append_stray hbefore hafter hr
  rcases List.append_eq_append_iff.mp (hrunes.symm.trans hbefore) with ⟨middle, rfl, rfl⟩ |
    ⟨middle, rfl, rfl⟩
  · refine ⟨middle ++ changed, by rw [hafter, List.append_assoc], ?_⟩
    cases middle with
    | nil => exact hchanged hne
    | cons r middle => exact endsAlike_of_head? rfl
  · cases middle using List.reverseRecOn with
    | nil => exact ⟨changed, by rw [hafter, List.append_nil], hchanged hne⟩
    | append_singleton middle r _ =>
      -- The form would be a word that ends between two stray bytes.
      obtain ⟨b, rfl⟩ := hstray r (by simp)
      obtain ⟨next, rest, rfl⟩ := List.exists_cons_of_ne_nil hne
      have hboundary : (!endsWord next) = false :=
        hends b (by rw [← List.append_assoc, List.getLast?_concat]) next (by simp)
      rw [AllStray.endsWord hstray next (by simp)] at hboundary
      cases hboundary

/-- A reader gives the next expression and stands behind it. -/
theorem read_eq_ok_iff {r reached : Reader} {source : Text} {v : Value} :
    r.read source = (.ok v, reached) ↔
      ∃ behind, expression (r.input source) = .ok (v, behind) ∧ reached = ⟨behind.place⟩ := by
  rw [read]
  cases expression (r.input source) with
  | error e => simp
  | ok result =>
    obtain ⟨v', behind⟩ := result
    simp only [Prod.mk.injEq, Except.ok.injEq]
    constructor
    · rintro ⟨rfl, rfl⟩
      exact ⟨behind, ⟨rfl, rfl⟩, rfl⟩
    · rintro ⟨_, ⟨rfl, rfl⟩, rfl⟩
      exact ⟨rfl, rfl⟩

/-- From any place of a source, a form that ends in front of the end of the source is read again
from a longer source. -/
theorem read_append_of_within {r reached : Reader} {source : Text} (hwithin : r.place.Within source)
    {v : Value} (h : r.read source = (.ok v, reached))
    (hbefore : reached.place.offset < source.length) (more : Text) :
    r.read (source ++ more) = (.ok v, reached) := by
  obtain ⟨behind, hexpression, rfl⟩ := read_eq_ok_iff.mp h
  obtain ⟨front, rest, hrunes, hplace⟩ := Position.within_iff.mp hwithin
  have hinput : ∀ {longer : Text} {rest : List Rune}, longer.runes = front ++ rest →
      r.input longer = ⟨r.place, rest⟩ := by
    intro longer rest hlonger
    rw [input, hplace, Position.ofSource_afterAll hlonger]
  rw [hinput hrunes] at hexpression
  obtain ⟨taken, rfl, hne, hends, hagain⟩ := expression_repeats hexpression
  have hbehind : behind = ⟨r.place.afterAll taken, behind.rest⟩ := by
    have hsame := hagain r.place behind.rest (endsAlike_of_head? rfl)
    rw [hexpression] at hsame
    exact (Prod.mk.inj (Except.ok.inj hsame)).2
  rw [← List.append_assoc] at hrunes
  have hrest : behind.rest ≠ [] := by
    intro hnil
    rw [hnil, List.append_nil] at hrunes
    rw [hbehind, hplace, ← Position.afterAll_append, Position.afterAll_start, ← hrunes,
      Text.ofRunes_runes] at hbefore
    exact lt_irrefl _ hbefore
  rw [← List.getLast?_append_of_ne_nil front hne] at hends
  obtain ⟨other, hother, halike⟩ := exists_behind_longer hrunes hrest hends more
  rw [List.append_assoc] at hother
  rw [read_eq_ok_iff, hinput hother]
  exact ⟨_, hagain r.place other halike, by rw [hbehind]⟩

/-- Wherever a reader has come to in a source, if it reads an expression there and does not come to
the end, then it reads the same expression from a longer source and comes to the same place. -/
theorem read_append (source more : Text) (requests : List Request) (v : Value) (reached : Reader)
    (h : (afterRequests source requests).read source = (.ok v, reached))
    (hbefore : reached.place.offset < source.length) :
    (afterRequests source requests).read (source ++ more) = (.ok v, reached) :=
  read_append_of_within (afterRequests_within source requests) h hbefore more

/-- A number behind a list ends in front of the first byte of a character, which the longer source
completes to white space. -/
theorem read_append_cut_character :
    (afterRequests (text "(a) 7" ++ [0xE3]) [.read]).read (text "(a) 7" ++ [0xE3]) =
        (.ok (.num 7), ⟨⟨5, 1, 6⟩⟩) ∧
      (text "(a) 7" ++ [0xE3, 0x80, 0x80]).runes =
        [.char '(', .char 'a', .char ')', .char ' ', .char '7', .char '\u3000'] ∧
      (afterRequests (text "(a) 7" ++ [0xE3]) [.read]).read
        ((text "(a) 7" ++ [0xE3]) ++ [0x80, 0x80]) = (.ok (.num 7), ⟨⟨5, 1, 6⟩⟩) := by
  have hread : (afterRequests (text "(a) 7" ++ [0xE3]) [.read]).read (text "(a) 7" ++ [0xE3]) =
      (.ok (.num 7), ⟨⟨5, 1, 6⟩⟩) := by rfl
  exact ⟨hread, by decide, read_append _ _ _ _ _ hread (by decide)⟩

/-! ### Sources that are cut off -/

/-- The expressions in front of the place where reading ends are read again if the input is cut off
there. -/
theorem expressions_cut (i : Input) :
    ∃ passed, i.rest = passed ++ (expressions i).behind.rest ∧ ∀ place,
      expressions ⟨place, passed⟩ =
        ⟨(expressions i).forms, none, ⟨place.afterAll passed, []⟩⟩ := by
  -- Reading ends behind white space, and nothing is read from that alone.
  have hblank : ∀ i : Input, ∃ passed, i.rest = passed ++ i.skipBlanks.rest ∧ ∀ place,
      expressions ⟨place, passed⟩ = ⟨[], none, ⟨place.afterAll passed, []⟩⟩ := by
    intro i
    obtain ⟨blanks, hi, hblanks, -⟩ := skipBlanks_spec i
    refine ⟨blanks, hi, fun place => ?_⟩
    have hskip := skipBlanks_append hblanks (by simp [StopsAt] : StopsAt _ []) place
    rw [List.append_nil] at hskip
    rw [expressions_of_atEnd (by rw [hskip]), hskip]
  induction i using expressions_induction with
  | atEnd i hnil =>
    rw [expressions_of_atEnd hnil]
    exact hblank i
  | error i err hne herror =>
    rw [expressions_of_error hne herror]
    exact hblank i
  | ok i v between hok ih =>
    obtain ⟨taken, htaken, -, -, hagain⟩ := expression_repeats hok
    obtain ⟨passed, hpassed, hcut⟩ := ih
    have halike : EndsAlike between.rest passed := endsAlike_of_isPrefix ⟨_, hpassed.symm⟩
    rw [expressions_of_ok hok]
    refine ⟨taken ++ passed, ?_, fun place => ?_⟩
    · rw [htaken, hpassed, List.append_assoc]
      rfl
    · rw [expressions_of_ok (hagain place passed halike), hcut, Position.afterAll_append]
      rfl

/-- Reading fails in front of a rune that is no white space. -/
theorem exists_rune_behind {i : Input} {err : ReadError} (h : (expressions i).error = some err) :
    ∃ r rest, (expressions i).behind.rest = r :: rest ∧ r.isBlank = false := by
  induction i using expressions_induction with
  | atEnd i hnil =>
    rw [expressions_of_atEnd hnil] at h
    cases h
  | error i err' hne herror =>
    obtain ⟨-, -, -, hfront⟩ := skipBlanks_spec i
    obtain ⟨r, rest, hrest⟩ := List.exists_cons_of_ne_nil hne
    rw [expressions_of_error hne herror]
    exact ⟨r, rest, hrest, hfront r (by simp [hrest])⟩
  | ok i v between hok ih =>
    rw [expressions_of_ok hok] at h ⊢
    exact ih h

/-- If reading all expressions of a source fails, then the source in front of the place that is
reached can be read, and its expressions are those that were read. No white space stands at that
place, and reading the next expression there fails with the same error. -/
theorem readAll_error (source : Text) (forms : List Value) (err : ReadError) (reached : Reader)
    (h : Reader.new.readAll source = (forms, some err, reached)) :
    parseAll (reached.place.front source) = .ok forms ∧
      (∃ r rest, (reached.input source).rest = r :: rest ∧ r.isBlank = false) ∧
      reached.read source = (.error err, reached) := by
  have hwhole : new.input source = whole source := rfl
  obtain ⟨hforms, herror, hreached⟩ : (expressions (whole source)).forms = forms ∧
      (expressions (whole source)).error = some err ∧
      (⟨(expressions (whole source)).behind.place⟩ : Reader) = reached := by
    simpa [readAll, hwhole] using h
  obtain ⟨passed, hrunes, hcut⟩ := expressions_cut (whole source)
  have hplace : (expressions (whole source)).behind.place = Position.start.afterAll passed := by
    obtain ⟨⟨taken, htaken, hplace⟩, -⟩ := expressions_proceed (whole source)
    rwa [List.append_cancel_right (hrunes.symm.trans htaken)]
  have hinput : reached.input source = (expressions (whole source)).behind := by
    rw [← hreached, input, hplace, Position.ofSource_afterAll hrunes, ← hplace]
  refine ⟨?_, ?_, ?_⟩
  · have hfront : reached.place.front source = Text.ofRunes passed := by
      rw [← hreached, hplace, Position.front_afterAll hrunes]
    have hdecoded : whole (Text.ofRunes passed) = ⟨.start, passed⟩ := by
      rw [whole, Text.runes_ofRunes_front hrunes]
    rw [hfront, parseAll, parseForms_eq, hdecoded, hcut, hforms]
  · rw [hinput]
    exact exists_rune_behind herror
  · rw [read, hinput, (expression_behind herror).1]

/-- The truth value in front of the error ends only because of the bracket where the source is cut
off. -/
theorem readAll_error_open_string :
    ∃ err, Reader.new.readAll (text "(a) #t(c \"d") =
        ([.list [.sym (text "a")], .bool true], some err, ⟨⟨6, 1, 7⟩⟩) ∧
      parseAll (text "(a) #t") = .ok [.list [.sym (text "a")], .bool true] ∧
      (Reader.mk ⟨6, 1, 7⟩).read (text "(a) #t(c \"d") = (.error err, ⟨⟨6, 1, 7⟩⟩) := by
  have hread : Reader.new.readAll (text "(a) #t(c \"d") =
      ([.list [.sym (text "a")], .bool true],
        some ⟨.unterminatedString, 9, 1, 10, [], true⟩, ⟨⟨6, 1, 7⟩⟩) := rfl
  obtain ⟨hfront, -, hagain⟩ := readAll_error _ _ _ _ hread
  exact ⟨_, hread, hfront, hagain⟩

end Lisplet.Reader
