import Lisplet.Proofs.Reader.Grammar

/-!
# How a source goes on

A source that was read to its end is read in the same way in front of white space, and what follows
is read on its own. An unfinished source can be completed: a quote ends its string, and the brackets
that are open can be closed. A source that is refused stays refused, whatever follows it.
-/

namespace Lisplet.Reader

/-! ### White space between sources -/

/-- The runes of numerals do not end words. -/
theorem endsWord_of_isNumeralRune {r : Rune} (h : isNumeralRune r = true) :
    endsWord r = false := by
  rw [isNumeralRune, Bool.or_eq_true, Rune.isChar_iff] at h
  rcases h with h | rfl
  · exact endsWord_of_isDigit h
  · decide

/-- A run that stops also stops in front of more runes, if they do not continue it. -/
theorem StopsAt.append_of {p : Rune → Bool} {rs more : List Rune} (h : StopsAt p rs)
    (hmore : rs = [] → StopsAt p more) : StopsAt p (rs ++ more) := by
  cases rs with
  | nil => exact hmore rfl
  | cons r rs => exact h

/-- A token in front of further runes remains one, unless it stood at the end and they continue
it. -/
theorem IsToken.append {written behind more : List Rune} {t : Token}
    (h : IsToken written behind t)
    (hmore : behind = [] → StopsAt (fun r => !endsWord r) more) :
    IsToken written (behind ++ more) t := by
  cases h with
  | number hnumeral hpoints hparse hinf =>
    refine .number ⟨hnumeral.1, hnumeral.2.1, hnumeral.2.2.append_of fun hnil r hr => ?_⟩
      hpoints hparse hinf
    have hboundary := hmore hnil r hr
    cases hr' : isNumeralRune r with
    | false => rfl
    | true => simp [endsWord_of_isNumeralRune hr'] at hboundary
  | truth hspelling hstop => exact .truth hspelling (hstop.append_of hmore)
  | string hcontents => exact .string hcontents
  | opening => exact .opening
  | closing => exact .closing
  | symbol hne hwritten hstop hnumber htruth hquote =>
    exact .symbol hne hwritten (hstop.append_of hmore) hnumber htruth hquote

/-- White space is a boundary. -/
theorem stopsAt_of_isBlank {c : Rune} (hc : c.isBlank = true) (rest : List Rune) :
    StopsAt (fun r => !endsWord r) (c :: rest) := by
  simp [StopsAt, endsWord, hc]

/-- White space may be added where white space stands. -/
theorem scan_blanks {blanks : List Rune} (hblanks : ∀ r ∈ blanks, r.isBlank = true) {c : Rune}
    (hc : c.isBlank = true) (rest : List Rune) : scan (blanks ++ c :: rest) = scan (c :: rest) := by
  obtain ⟨more, front, rfl, hmore, hfront⟩ := exists_blanks rest
  have hboth : ∀ r ∈ blanks ++ c :: more, r.isBlank = true := by
    intro r hr
    rcases List.mem_append.mp hr with hr | hr
    · exact hblanks r hr
    · rcases List.mem_cons.mp hr with rfl | hr
      · exact hc
      · exact hmore r hr
  have hone : ∀ r ∈ c :: more, r.isBlank = true := fun r hr => hboth r (List.mem_append_right _ hr)
  by_cases hne : front = []
  · subst hne
    rw [List.append_nil, scan_of_blank hboth, scan_of_blank hone]
  · have hleft := scan_append hboth hfront hne
    have hright := scan_append hone hfront hne
    have hspaced : (blanks ++ c :: more).isEmpty = (c :: more).isEmpty := by cases blanks <;> rfl
    simp only [List.append_assoc, List.cons_append, hspaced] at hleft hright
    rw [hleft, hright]

/-- A text that was scanned to its end is scanned on its own in front of white space. -/
theorem Lexes.scan_append {rs : List Rune} {ls : List Lexeme} (h : Lexes rs ls) {c : Rune}
    (hc : c.isBlank = true) (rest : List Rune) :
    scan (rs ++ c :: rest) = ⟨ls ++ (scan (c :: rest)).lexemes, (scan (c :: rest)).ending⟩ := by
  induction h with
  | blank hblank => rw [scan_blanks hblank hc]; rfl
  | token hblanks htoken _ ih =>
    have hlex := lex_of_isToken (htoken.append fun _ => stopsAt_of_isBlank hc rest)
    rw [List.append_assoc, List.append_assoc, scan_token hblanks hlex, ih]
    rfl

/-- The machine runs over one part of the lexemes after the other. -/
theorem settle_append {ls more : List Lexeme} (hmore : ¬ BeginsCall more) (st : Nesting) :
    settle st (ls ++ more) = (settle st ls).bind fun st => settle st more := by
  fun_induction settle st ls with
  | case1 st => rfl
  | case2 st spaced n ls ih => exact ih
  | case3 st spaced b ls ih => exact ih
  | case4 st spaced contents ls ih => exact ih
  | case5 st spaced name ls ih => exact ih
  | case6 st spaced name ls hcall ih =>
    have hnot : ¬ BeginsCall ls := by
      rintro ⟨more, heq⟩
      exact hcall more heq
    rw [List.cons_append, settle_symbol (not_beginsCall_append hnot hmore), ih]
  | case7 st spaced e ls ih => exact ih
  | case8 st spaced e ls st' hleave ih => rw [List.cons_append, settle, hleave, ← ih]
  | case9 st spaced e ls hleave => rw [List.cons_append, settle, hleave]; rfl

/-- Behind a source that was scanned to its end, the machine goes on from the state it reached. -/
theorem verdict_separated {rs : List Rune} {st st' : Nesting}
    (hending : (scan rs).ending = .complete) (hsettle : settle st (scan rs).lexemes = some st')
    {c : Rune} (hc : c.isBlank = true) (rest : List Rune) :
    verdict st (rs ++ c :: rest) = verdict st' rest := by
  have hround : (c :: rest).head? ≠ some (.char '(') := by
    intro hhead
    obtain rfl : c = .char '(' := by simpa using hhead
    exact absurd hc (by decide)
  rw [← verdict_cons_blank hc rest st', verdict, (lexes_scan hending).scan_append hc rest,
    Scan.verdict, settle_append (not_beginsCall_scan hround), hsettle]
  rfl

/-! ### Completion -/

/-- The runes that close brackets. -/
def closers (enclosing : List (Enclosure × List Value)) : List Rune :=
  enclosing.map fun enclosure => .char enclosure.1.bracket.closing

/-- Closing brackets are single bytes. -/
theorem code_lt_of_mem_closers {enclosing : List (Enclosure × List Value)} {r : Rune}
    (h : r ∈ closers enclosing) : r.code < 128 := by
  have hclosing : ∀ e : Enclosure, (Rune.char e.bracket.closing).code < 128 := by
    intro e
    cases e <;> decide
  obtain ⟨⟨e, outer⟩, -, rfl⟩ := List.mem_map.mp h
  exact hclosing e

/-- Brackets that are open can be closed one after the other. -/
theorem verdict_closers (st : Nesting) :
    ∃ vs, verdict st (closers st.enclosing) = .forms vs := by
  obtain ⟨items, enclosing⟩ := st
  induction enclosing generalizing items with
  | nil => exact ⟨items, verdict_of_blank no_blanks _⟩
  | cons enclosure enclosing ih =>
    obtain ⟨e, outer⟩ := enclosure
    have hlex : lex (closers ((e, outer) :: enclosing)) =
        .token (.closing e) (closers enclosing) :=
      lex_bracket (bracket?_eq_some_iff.mpr ⟨e, Or.inr ⟨rfl, rfl⟩⟩) _
    rw [verdict_closing hlex]
    simpa [Nesting.leave?] using ih (outer ++ [.list items])

/-- White space and closing brackets complete a source of which only the brackets are open. -/
theorem verdict_append_closers {rs : List Rune} {st : Nesting}
    (hending : (scan rs).ending = .complete)
    (hsettle : settle .empty (scan rs).lexemes = some st) :
    ∃ vs, verdict .empty (rs ++ .char ' ' :: closers st.enclosing) = .forms vs := by
  rw [verdict_separated hending hsettle (by decide)]
  exact verdict_closers st

/-- Where the last string of a source has no end, more text goes on inside that string. -/
theorem scan_append_of_unterminated {rs : List Rune} (h : (scan rs).ending = .unterminated) :
    ∃ blanks contents, (∀ r ∈ blanks, r.isBlank = true) ∧ .char '"' ∉ contents ∧ ∀ more,
      scan (rs ++ more) =
        ⟨(scan rs).lexemes ++ (scan (blanks ++ .char '"' :: (contents ++ more))).lexemes,
          (scan (blanks ++ .char '"' :: (contents ++ more))).ending⟩ := by
  induction hlength : rs.length using Nat.strongRecOn generalizing rs with
  | ind length ih =>
    obtain ⟨blanks, front, rfl, hblanks, hfront⟩ := exists_blanks rs
    by_cases hne : front = []
    · rw [hne, List.append_nil, scan_of_blank hblanks] at h
      cases h
    · rw [scan_append hblanks hfront hne] at h ⊢
      cases hlex : lex front with
      | refused => simp [hlex] at h
      | unterminated =>
        obtain ⟨contents, rfl, hcontents⟩ := lex_eq_unterminated hlex
        exact ⟨blanks, contents, hblanks, hcontents, by simp⟩
      | token t behind =>
        have hunterminated : (scan behind).ending = .unterminated := by
          simpa [hlex, Scan.cons] using h
        have hbehind : behind ≠ [] := by
          rintro rfl
          rw [scan_of_blank no_blanks] at hunterminated
          cases hunterminated
        have hshorter : behind.length < length := by
          rw [← hlength, List.length_append]
          exact Nat.lt_add_left _ (length_lt_of_lex hlex)
        obtain ⟨blanks', contents, hblanks', hcontents, hscan⟩ :=
          ih behind.length hshorter hunterminated rfl
        obtain ⟨written, rfl, htoken⟩ := isToken_of_lex hlex
        refine ⟨blanks', contents, hblanks', hcontents, fun more => ?_⟩
        have htoken' : IsToken written (behind ++ more) t :=
          htoken.append fun hnil => absurd hnil hbehind
        rw [List.append_assoc, List.append_assoc, scan_token hblanks (lex_of_isToken htoken'),
          hscan]
        rfl

/-- A quote ends a string that has no end. -/
theorem scan_append_quote {rs : List Rune} (h : (scan rs).ending = .unterminated) :
    ∃ spaced contents, scan (rs ++ [.char '"']) =
      ⟨(scan rs).lexemes ++ [⟨spaced, .string contents⟩], .complete⟩ := by
  obtain ⟨blanks, contents, hblanks, hcontents, hscan⟩ := scan_append_of_unterminated h
  have hlex : lex (.char '"' :: (contents ++ [.char '"'])) =
      .token (.string (Text.ofRunes contents)) [] := by
    rw [lex_quote, lexString_append hcontents]
  rw [hscan, scan_token hblanks hlex, scan_of_blank no_blanks]
  exact ⟨_, _, rfl⟩

/-- An unfinished source can be completed, by a quote if a string is open and by brackets. -/
theorem exists_completion {rs : List Rune} (h : verdict .empty rs = .unfinished) :
    ∃ quote enclosing vs, (quote = [] ∨ quote = [Rune.char '"']) ∧
      verdict .empty (rs ++ (quote ++ .char ' ' :: closers enclosing)) = .forms vs := by
  rw [verdict, Scan.verdict] at h
  cases hsettle : settle .empty (scan rs).lexemes with
  | none => simp [hsettle] at h
  | some st =>
    rw [hsettle] at h
    cases hending : (scan rs).ending with
    | refused => simp [hending] at h
    | complete =>
      obtain ⟨vs, hvs⟩ := verdict_append_closers hending hsettle
      exact ⟨[], st.enclosing, vs, Or.inl rfl, hvs⟩
    | unterminated =>
      obtain ⟨spaced, contents, hscan⟩ := scan_append_quote hending
      have hsettle' : settle .empty (scan (rs ++ [.char '"'])).lexemes =
          some (st.push (.str contents)) := by
        rw [hscan, settle_append (by simp [BeginsCall]), hsettle]
        rfl
      obtain ⟨vs, hvs⟩ := verdict_append_closers (by rw [hscan]) hsettle'
      exact ⟨[.char '"'], (st.push (.str contents)).enclosing, vs, Or.inr rfl, by simpa using hvs⟩

/-! ### Refusal -/

/-- Runes that are stray bytes. -/
def AllStray (rs : List Rune) : Prop := ∀ r ∈ rs, ∃ b, r = .stray b

/-- Stray bytes are no boundaries. -/
theorem AllStray.endsWord {rs : List Rune} (h : AllStray rs) :
    ∀ r ∈ rs, endsWord r = false := by
  intro r hr
  obtain ⟨b, rfl⟩ := h r hr
  have hblank : (Rune.stray b).isBlank = false := rfl
  have hlisted : (wordEnds.any fun c => (Rune.stray b).isChar c) = false := by simp
  rw [Reader.endsWord, hblank, hlisted]
  rfl

/-- Stray bytes are no characters. -/
theorem AllStray.not_mem {rs : List Rune} (h : AllStray rs) (c : Char) : .char c ∉ rs := by
  intro hmem
  obtain ⟨b, hb⟩ := h _ hmem
  cases hb

/-- Stray bytes are no digits. -/
theorem AllStray.isNumeralRune {rs : List Rune} (h : AllStray rs) :
    ∀ r ∈ rs, isNumeralRune r = false := by
  intro r hr
  obtain ⟨b, rfl⟩ := h r hr
  rfl

/-- Stray bytes at the end of a source are a symbol. -/
theorem AllStray.lex_eq {rs : List Rune} (h : AllStray rs) (hne : rs ≠ []) :
    lex rs = .token (.symbol (Text.ofRunes rs)) [] := by
  have hnumber : ¬ BeginsNumber rs := by
    rintro ⟨sign, point, digit, rest, rfl, -, -, hdigit⟩
    have hnot := h.isNumeralRune digit (by simp)
    rw [Reader.isNumeralRune, hdigit] at hnot
    cases hnot
  have htruth : ∀ b, rs ∉ truthSpellings b := by
    intro b hspelling
    have hhash : ∀ b, ∀ spelling ∈ truthSpellings b, .char '#' ∈ spelling := by decide
    exact h.not_mem '#' (hhash b rs hspelling)
  have hquote : rs.head? ≠ some (.char '"') := fun hhead => h.not_mem '"' (List.mem_of_head? hhead)
  have htoken : IsToken rs [] (.symbol (Text.ofRunes rs)) :=
    .symbol hne h.endsWord (by simp [StopsAt]) hnumber htruth hquote
  simpa using lex_of_isToken htoken

/-- A source that ends early is unfinished, not refused. -/
theorem finish_ne_refused (st : Nesting) : st.finish ≠ .refused := by
  unfold Nesting.finish
  split <;> simp

/-- Stray bytes alone are not refused. -/
theorem AllStray.verdict_ne {rs : List Rune} (h : AllStray rs) (st : Nesting) :
    verdict st rs ≠ .refused := by
  by_cases hne : rs = []
  · rw [hne, verdict_of_blank no_blanks]
    exact finish_ne_refused st
  · rw [verdict_leaf (h.lex_eq hne) rfl (by simp), verdict_of_blank no_blanks]
    exact finish_ne_refused _

/-- A numeral holds no stray bytes. -/
theorem IsNumeral.not_mem {written behind : List Rune} (h : IsNumeral written behind) (b : UInt8) :
    .stray b ∉ written := by
  obtain ⟨-, ⟨sign, run, rfl, hsign, hrun⟩, -⟩ := h
  intro hmem
  rcases List.mem_append.mp hmem with hmem | hmem
  · rcases hsign with rfl | rfl <;> simp at hmem
  · exact absurd (hrun _ hmem) Bool.false_ne_true

/-- A numeral of a source that ends in stray bytes ends in front of them. -/
theorem IsNumeral.settled {written behind settled unsettled : List Rune}
    (h : IsNumeral written behind) (hstray : AllStray unsettled)
    (heq : written ++ behind = settled ++ unsettled) : ∃ middle, settled = written ++ middle := by
  rcases List.append_eq_append_iff.mp heq with ⟨middle, hsettled, -⟩ |
    ⟨middle, hwritten, hunsettled⟩
  · exact ⟨middle, hsettled⟩
  · cases middle with
    | nil => exact ⟨[], by simpa using hwritten.symm⟩
    | cons r middle =>
      obtain ⟨b, rfl⟩ := hstray r (by simp [hunsettled])
      exact absurd (by simp [hwritten]) (h.not_mem b)

/-- A numeral in front of other runes goes on with the digits and points among them. -/
theorem IsNumeral.continued {written behind : List Rune} (h : IsNumeral written behind)
    (rs : List Rune) :
    ∃ more rest, rs = more ++ rest ∧ (∀ r ∈ more, Reader.isNumeralRune r = true) ∧
      IsNumeral (written ++ more) rest := by
  obtain ⟨hbegins, ⟨sign, run, rfl, hsign, hrun⟩, -⟩ := h
  have hmore : ∀ r ∈ rs.takeWhile Reader.isNumeralRune, Reader.isNumeralRune r = true :=
    fun r hr => List.mem_takeWhile_imp hr
  refine ⟨_, _, List.takeWhile_append_dropWhile.symm, hmore, hbegins.append _,
    ⟨sign, run ++ rs.takeWhile Reader.isNumeralRune, by simp, hsign, ?_⟩, stopsAt_dropWhile _ _⟩
  intro r hr
  rcases List.mem_append.mp hr with hr | hr
  · exact hrun r hr
  · exact hmore r hr

/-- A token that ends in a stray byte is a symbol. -/
theorem IsToken.eq_symbol {written behind : List Rune} {t : Token} (h : IsToken written behind t)
    {b : UInt8} (hlast : written.getLast? = some (.stray b)) :
    (∃ name, t = .symbol name) ∧ StopsAt (fun r => !Reader.endsWord r) behind := by
  have hmem : .stray b ∈ written := List.mem_of_getLast? hlast
  cases h with
  | number hnumeral => exact absurd hmem (hnumeral.not_mem b)
  | @truth _ _ truth hspelling =>
    have hchars : ∀ b, ∀ spelling ∈ truthSpellings b, ∀ r ∈ spelling, r.code < 128 := by decide
    have hcode : Rune.replacement < 128 := hchars truth written hspelling _ hmem
    exact absurd hcode (by decide)
  | string => simp [List.getLast?_cons] at hlast
  | opening => simp at hlast
  | closing => simp at hlast
  | symbol _ _ hstop => exact ⟨⟨_, rfl⟩, hstop⟩

/-- A token of a source that ends in stray bytes either ends in front of them, or it is a symbol
that takes all of them. -/
theorem IsToken.settled {written behind settled unsettled : List Rune} {t : Token}
    (h : IsToken written behind t) (hstray : AllStray unsettled)
    (heq : written ++ behind = settled ++ unsettled) :
    (∃ middle, settled = written ++ middle ∧ behind = middle ++ unsettled) ∨
      ((∃ name, t = .symbol name) ∧ behind = []) := by
  rcases List.append_eq_append_iff.mp heq with ⟨middle, hsettled, hbehind⟩ |
    ⟨middle, hwritten, hunsettled⟩
  · exact Or.inl ⟨middle, hsettled, hbehind⟩
  · cases middle using List.reverseRecOn with
    | nil => exact Or.inl ⟨[], by simpa using hwritten.symm, by simpa using hunsettled.symm⟩
    | append_singleton middle r _ =>
      -- The last rune of the token is stray.
      have hr : r ∈ unsettled := by simp [hunsettled]
      obtain ⟨b, rfl⟩ := hstray r hr
      obtain ⟨hsymbol, hstop⟩ := h.eq_symbol (b := b) (by simp [hwritten])
      refine Or.inr ⟨hsymbol, ?_⟩
      cases behind with
      | nil => rfl
      | cons r behind =>
        have hboundary := hstop r (by simp)
        have hnot := hstray.endsWord r (by simp [hunsettled])
        simp [hnot] at hboundary

/-- Runes that begin no token begin none with other runes behind them, stray bytes aside. -/
theorem lex_refused_append {settled unsettled : List Rune} (hne : settled ≠ [])
    (hstray : AllStray unsettled) (h : lex (settled ++ unsettled) = .refused)
    (changed : List Rune) : lex (settled ++ changed) = .refused := by
  obtain ⟨r, rest, rfl⟩ := List.exists_cons_of_ne_nil hne
  rcases lex_cases r (rest ++ unsettled) with ⟨written, behind, heq, hnumeral⟩ | rfl |
    ⟨t, hbracket⟩ | ⟨hnumber, hquote, hbracket⟩
  · -- The numeral is refused, and so is the one that it becomes.
    have hnone : numberOf? written = none := by
      rw [List.cons_append, heq, lex_numeral hnumeral] at h
      split at h
      · cases h
      · assumption
    obtain ⟨middle, hsplit⟩ := hnumeral.settled hstray (heq.symm.trans List.cons_append.symm)
    obtain ⟨more, last, hmore, hnumerals, hcontinued⟩ := hnumeral.continued (middle ++ changed)
    rw [hsplit, List.append_assoc, hmore, ← List.append_assoc, lex_numeral hcontinued,
      numberOf?_append hnumeral hnumerals hnone]
  · rw [List.cons_append, lex_quote, lexString] at h
    split at h <;> cases h
  · rw [List.cons_append, lex_bracket hbracket] at h
    cases h
  · rw [List.cons_append, lex_word hnumber hquote hbracket] at h
    cases hboundary : endsWord r with
    | true => exact lex_of_endsWord hboundary hbracket (rest ++ changed)
    | false =>
      obtain ⟨written, behind, heq, hwritten, hrunes, hstop⟩ :=
        exists_word hboundary (rest ++ unsettled)
      rw [heq, lexWord_append hwritten hrunes hstop] at h
      split at h <;> cases h

/-- What ends in front of some runes ends in front of other runes too. -/
structure EndsAlike (behind other : List Rune) : Prop where
  /-- A number does. -/
  number : StopsAt isNumeralRune behind → StopsAt isNumeralRune other
  /-- A word does. -/
  word : StopsAt (fun r => !endsWord r) behind → StopsAt (fun r => !endsWord r) other
  /-- A symbol that is not called is still not called. -/
  call : behind.head? ≠ some (.char '(') → other.head? ≠ some (.char '(')

/-- Only the first rune behind a form matters. -/
theorem endsAlike_of_head? {behind other : List Rune} (h : other.head? = behind.head?) :
    EndsAlike behind other where
  number hstop := by rwa [StopsAt, h]
  word hstop := by rwa [StopsAt, h]
  call hnot := by rwa [h]

/-- A token that ends in front of some runes is the same token in front of others like them. -/
theorem IsToken.endsAlike {written behind other : List Rune} {t : Token}
    (h : IsToken written behind t) (halike : EndsAlike behind other) : IsToken written other t := by
  cases h with
  | number hnumeral hpoints hparse hinf =>
    exact .number ⟨hnumeral.1, hnumeral.2.1, halike.number hnumeral.2.2⟩ hpoints hparse hinf
  | truth hspelling hstop => exact .truth hspelling (halike.word hstop)
  | string hcontents => exact .string hcontents
  | opening => exact .opening
  | closing => exact .closing
  | symbol hne hwritten hstop hnumber htruth hquote =>
    exact .symbol hne hwritten (halike.word hstop) hnumber htruth hquote

/-- If a token is followed by a source that is refused, it stays so with other runes at the end,
provided that this holds of what stands behind the token. -/
theorem verdict_refused_token {written middle unsettled changed : List Rune} {t : Token}
    (htoken : IsToken written (middle ++ unsettled) t) (hstray : AllStray unsettled)
    (ih : ∀ rest, rest.length ≤ middle.length → ∀ st, verdict st (rest ++ unsettled) = .refused →
      verdict st (rest ++ changed) = .refused) {st : Nesting}
    (h : verdict st (written ++ (middle ++ unsettled)) = .refused) :
    verdict st (written ++ (middle ++ changed)) = .refused := by
  have hlex := lex_of_isToken htoken
  have hlex' : middle ≠ [] →
      lex (written ++ (middle ++ changed)) = .token t (middle ++ changed) := by
    intro hmiddle
    refine lex_of_isToken (htoken.endsAlike (endsAlike_of_head? ?_))
    rw [List.head?_append_of_ne_nil _ hmiddle, List.head?_append_of_ne_nil _ hmiddle]
  rcases token_cases t (middle ++ unsettled) with ⟨v, hvalue, hcall⟩ | ⟨name, rest, rfl, hrest⟩ |
    ⟨e, rfl⟩ | ⟨e, rfl⟩
  · rw [verdict_leaf hlex hvalue hcall] at h
    by_cases hmiddle : middle = []
    · subst hmiddle
      exact absurd h (hstray.verdict_ne _)
    · rw [verdict_leaf (hlex' hmiddle) hvalue]
      · exact ih middle le_rfl _ h
      · intro hname
        have hnot := hcall hname
        rwa [List.head?_append_of_ne_nil _ hmiddle] at hnot ⊢
  · cases middle with
    | nil =>
      have hmem : .char '(' ∈ [] ++ unsettled := by simp [hrest]
      exact absurd hmem (hstray.not_mem '(')
    | cons r middle =>
      obtain ⟨rfl, rfl⟩ := List.cons.inj hrest
      rw [verdict_call hlex] at h
      rw [verdict_call (hlex' (by simp))]
      exact ih middle (by simp) _ h
  · -- A bracket is the same token in front of any runes.
    have hopening : lex (written ++ (middle ++ changed)) =
        .token (.opening e) (middle ++ changed) := by
      cases htoken
      exact lex_of_isToken .opening
    rw [verdict_opening hlex] at h
    rw [verdict_opening hopening]
    exact ih middle le_rfl _ h
  · have hclosing : lex (written ++ (middle ++ changed)) =
        .token (.closing e) (middle ++ changed) := by
      cases htoken
      exact lex_of_isToken .closing
    rw [verdict_closing hlex] at h
    rw [verdict_closing hclosing]
    cases hleave : st.leave? e with
    | none => rfl
    | some st' =>
      rw [hleave] at h
      exact ih middle le_rfl _ h

/-- A source that is refused stays refused, whatever follows it. -/
theorem verdict_refused_append {settled unsettled : List Rune} (hstray : AllStray unsettled)
    {st : Nesting} (h : verdict st (settled ++ unsettled) = .refused) (changed : List Rune) :
    verdict st (settled ++ changed) = .refused := by
  induction hlength : settled.length using Nat.strongRecOn generalizing settled st with
  | ind length ih =>
    obtain ⟨blanks, front, rfl, hblanks, hfront⟩ := exists_blanks settled
    rw [List.append_assoc] at h ⊢
    by_cases hne : front = []
    · subst hne
      have hstops : StopsAt Rune.isBlank ([] ++ unsettled) := by
        intro r hr
        exact isBlank_of_endsWord (hstray.endsWord r (List.mem_of_head? hr))
      rw [verdict_append hblanks hstops] at h
      exact absurd h (hstray.verdict_ne st)
    · have hstops : ∀ more, StopsAt Rune.isBlank (front ++ more) := fun more => hfront.append hne
      rw [verdict_append hblanks (hstops unsettled)] at h
      rw [verdict_append hblanks (hstops changed)]
      cases hlex : lex (front ++ unsettled) with
      | refused =>
        have hlex' := lex_refused_append hne hstray hlex changed
        exact verdict_refused (hstops changed) (by simp [hne]) hlex' st
      | unterminated =>
        rw [verdict_unterminated (hstops unsettled) hlex] at h
        cases h
      | token t behind =>
        obtain ⟨written, heq, htoken⟩ := isToken_of_lex hlex
        rcases htoken.settled hstray heq.symm with ⟨middle, rfl, rfl⟩ | ⟨⟨name, rfl⟩, rfl⟩
        · rw [List.append_assoc] at h ⊢
          refine verdict_refused_token htoken hstray (fun rest hrest st' h' => ?_) h
          refine ih rest.length ?_ h' rfl
          obtain ⟨r, more, rfl, -⟩ := htoken.head
          simp only [List.length_append, List.length_cons] at hlength
          omega
        · rw [verdict_leaf hlex rfl (by simp), verdict_of_blank no_blanks] at h
          exact absurd h (finish_ne_refused _)

/-! ### Sources that can be completed -/

/-- The error of a source tells the verdict on it. -/
theorem verdict_of_parseAll_error {source : Text} {e : ReadError}
    (h : parseAll source = .error e) : verdict .empty source.runes = failed e.incomplete := by
  rw [verdict_runes, h]

/-- What a source begins with is not refused, if the source can be read. -/
theorem verdict_ne_refused {source suffix : Text} {forms : List Value}
    (h : parseAll (source ++ suffix) = .ok forms) : verdict .empty source.runes ≠ .refused := by
  intro hrefused
  obtain ⟨settled, unsettled, changed, hbefore, hafter, hstray⟩ := Text.runes_append source suffix
  rw [hbefore] at hrefused
  have hstill := verdict_refused_append hstray hrefused changed
  rw [← hafter, parseAll_eq_ok_iff_verdict.mp h] at hstill
  cases hstill

/-- Where the reading of a source fails, the error says that the source is incomplete exactly if
some text behind it makes it readable. -/
theorem incomplete_iff_exists_suffix (source : Text) (e : ReadError)
    (h : parseAll source = .error e) :
    e.incomplete = true ↔ ∃ suffix forms, parseAll (source ++ suffix) = .ok forms := by
  have hverdict := verdict_of_parseAll_error h
  constructor
  · intro hincomplete
    rw [hincomplete] at hverdict
    obtain ⟨quote, enclosing, forms, hquote, hforms⟩ := exists_completion hverdict
    refine ⟨Text.ofRunes (quote ++ .char ' ' :: closers enclosing), forms, ?_⟩
    have hascii : ∀ r ∈ quote ++ .char ' ' :: closers enclosing, r.code < 128 := by
      intro r hr
      rcases List.mem_append.mp hr with hr | hr
      · rcases hquote with rfl | rfl
        · simp at hr
        · rw [List.mem_singleton.mp hr]
          decide
      · rcases List.mem_cons.mp hr with rfl | hr
        · decide
        · exact code_lt_of_mem_closers hr
    rw [parseAll_eq_ok_iff_verdict, Text.runes_append_ofRunes source hascii, hforms]
  · rintro ⟨suffix, forms, hforms⟩
    cases hincomplete : e.incomplete with
    | true => rfl
    | false =>
      rw [hincomplete] at hverdict
      exact absurd hverdict (verdict_ne_refused hforms)

/-- A call with an open string in a block is incomplete, and can be completed. -/
theorem incomplete_open_string :
    ∃ e, parseAll (text "\x7b (f a \"b") = .error e ∧
      (e.incomplete = true ↔
        ∃ suffix forms, parseAll (text "\x7b (f a \"b" ++ suffix) = .ok forms) :=
  ⟨_, rfl, incomplete_iff_exists_suffix _ _ rfl⟩

end Lisplet.Reader
