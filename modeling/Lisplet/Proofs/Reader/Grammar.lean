import Lisplet.Proofs.Reader.Agreement

/-!
# The grammar of source text

The grammar has two phases. `Lexes` splits a text into lexemes, and `Forest` nests the lexemes by
their brackets into values. Both are relations that know nothing of the readers. A text is read
with given forms exactly if the grammar derives them.
-/

namespace Lisplet.Reader

/-- A text is split into lexemes: each is a token with white space in front of it, and only white
space stands behind the last. -/
inductive Lexes : List Rune → List Lexeme → Prop where
  | blank {rs : List Rune} : (∀ r ∈ rs, r.isBlank = true) → Lexes rs []
  | token {blanks written behind : List Rune} {t : Token} {ls : List Lexeme} :
    (∀ r ∈ blanks, r.isBlank = true) → IsToken written behind t → Lexes behind ls →
    Lexes (blanks ++ (written ++ behind)) (⟨!blanks.isEmpty, t⟩ :: ls)

/-- Lexemes with properly nested brackets and the values that they spell. A block has the symbol
`do` in front, and a symbol right in front of a list is the first item of that list. -/
inductive Forest : List Lexeme → List Value → Prop where
  | nil : Forest [] []
  | leaf {l : Lexeme} {ls : List Lexeme} {v : Value} {vs : List Value} :
    l.token.value? = some v → ((∃ name, l.token = .symbol name) → ¬ BeginsCall ls) →
    Forest ls vs → Forest (l :: ls) (v :: vs)
  | enclosed {spaced spaced' : Bool} {e : Enclosure} {inner ls : List Lexeme}
    {items vs : List Value} :
    Forest inner items → Forest ls vs →
    Forest (⟨spaced, .opening e⟩ :: inner ++ ⟨spaced', .closing e⟩ :: ls)
      (.list (e.head ++ items) :: vs)
  | call {spaced spaced' : Bool} {name : Text} {inner ls : List Lexeme} {items vs : List Value} :
    Forest inner items → Forest ls vs →
    Forest (⟨spaced, .symbol name⟩ :: ⟨false, .opening .list⟩ :: inner ++
      ⟨spaced', .closing .list⟩ :: ls) (.list (.symbol name :: items) :: vs)

/-! ### Splitting -/

/-- Scanning finds the lexemes of a text. -/
theorem Lexes.scan_eq {rs : List Rune} {ls : List Lexeme} (h : Lexes rs ls) :
    scan rs = ⟨ls, .complete⟩ := by
  induction h with
  | blank hblank => exact scan_of_blank hblank
  | token hblanks htoken _ ih =>
    rw [scan_token hblanks (lex_of_isToken htoken), ih]
    rfl

/-- A text that is scanned to its end is split into the lexemes that were found. -/
theorem lexes_scan {rs : List Rune} (h : (scan rs).ending = .complete) :
    Lexes rs (scan rs).lexemes := by
  induction hlength : rs.length using Nat.strongRecOn generalizing rs with
  | ind length ih =>
    obtain ⟨blanks, front, rfl, hblanks, hfront⟩ := exists_blanks rs
    by_cases hne : front = []
    · subst hne
      rw [List.append_nil, scan_of_blank hblanks]
      exact .blank hblanks
    · rw [scan_append hblanks hfront hne] at h ⊢
      cases hlex : lex front with
      | unterminated => simp [hlex] at h
      | refused => simp [hlex] at h
      | token t behind =>
        rw [hlex] at h
        have hshorter := length_lt_of_lex hlex
        obtain ⟨written, rfl, htoken⟩ := isToken_of_lex hlex
        refine .token hblanks htoken (ih behind.length ?_ h rfl)
        rw [← hlength, List.length_append]
        omega

/-! ### Nesting -/

/-- No call begins where neither part begins one. -/
theorem not_beginsCall_append {ls more : List Lexeme} (h : ¬ BeginsCall ls)
    (hmore : ¬ BeginsCall more) : ¬ BeginsCall (ls ++ more) := by
  cases ls with
  | nil => exact hmore
  | cons l ls =>
    rintro ⟨rest, heq⟩
    exact h ⟨ls, by rw [(List.cons.inj heq).1]⟩

/-- A bracket that is closed becomes one more item of the bracket around it. -/
theorem settle_closing (items outer : List Value) (e : Enclosure)
    (enclosing : List (Enclosure × List Value)) (spaced : Bool) (ls : List Lexeme) :
    settle ⟨items, (e, outer) :: enclosing⟩ (⟨spaced, .closing e⟩ :: ls) =
      settle ⟨outer ++ [.list items], enclosing⟩ ls := by
  simp [settle, Nesting.leave?]

/-- The machine settles a forest into its values. -/
theorem Forest.settle_append {ls : List Lexeme} {vs : List Value} (h : Forest ls vs) (st : Nesting)
    {more : List Lexeme} (hmore : ¬ BeginsCall more) :
    settle st (ls ++ more) = settle ⟨st.items ++ vs, st.enclosing⟩ more := by
  induction h generalizing st more with
  | nil => simp
  | leaf hvalue hcall _ ih =>
    rw [List.cons_append, settle_leaf hvalue fun hname => not_beginsCall_append (hcall hname) hmore,
      ih _ hmore]
    simp [Nesting.push]
  | @enclosed _ spaced' e _ ls _ _ _ _ ihinner ihls =>
    have hclosing : ¬ BeginsCall (⟨spaced', .closing e⟩ :: (ls ++ more)) := by simp [BeginsCall]
    rw [List.append_assoc, List.cons_append, settle, List.cons_append, ihinner _ hclosing,
      Nesting.enter, settle_closing, ihls _ hmore]
    simp
  | @call _ spaced' _ _ ls _ _ _ _ ihinner ihls =>
    have hclosing : ¬ BeginsCall (⟨spaced', .closing .list⟩ :: (ls ++ more)) := by
      simp [BeginsCall]
    rw [List.append_assoc, List.cons_append, List.cons_append, settle, List.cons_append,
      ihinner _ hclosing, Nesting.enter, settle_closing, ihls _ hmore]
    simp

/-- Lexemes that close the given brackets one after the other, and the values that come of it:
forests stand in front of each closing bracket and behind the last. -/
def Unwinds : List (Enclosure × List Value) → (items : List Value) → List Lexeme →
    (final : List Value) → Prop
  | [], items, ls, final => ∃ vs, Forest ls vs ∧ final = items ++ vs
  | (e, outer) :: enclosing, items, ls, final =>
    ∃ inner vs spaced behind, ls = inner ++ ⟨spaced, .closing e⟩ :: behind ∧ Forest inner vs ∧
      Unwinds enclosing (outer ++ [.list (items ++ vs)]) behind final

/-- Lexemes that spell one value can stand in front of others. -/
theorem Unwinds.append {enclosing : List (Enclosure × List Value)} {items final : List Value}
    {front ls : List Lexeme} {v : Value}
    (hfront : ∀ ls' vs, ls' <+: ls → Forest ls' vs → Forest (front ++ ls') (v :: vs))
    (h : Unwinds enclosing (items ++ [v]) ls final) :
    Unwinds enclosing items (front ++ ls) final := by
  cases enclosing with
  | nil =>
    obtain ⟨vs, hforest, rfl⟩ := h
    exact ⟨v :: vs, hfront ls vs List.prefix_rfl hforest, by simp⟩
  | cons enclosure enclosing =>
    obtain ⟨e, outer⟩ := enclosure
    obtain ⟨inner, vs, spaced, behind, rfl, hforest, hbehind⟩ := h
    refine ⟨front ++ inner, v :: vs, spaced, behind, by simp,
      hfront inner vs (List.prefix_append _ _) hforest, ?_⟩
    simpa using hbehind

/-- No call begins at a part in front. -/
theorem not_beginsCall_of_isPrefix {ls' ls : List Lexeme} (h : ¬ BeginsCall ls)
    (hwithin : ls' <+: ls) : ¬ BeginsCall ls' := by
  rintro ⟨more, rfl⟩
  obtain ⟨rest, rfl⟩ := hwithin
  exact h ⟨more ++ rest, rfl⟩

section Unwinds

variable {enclosing : List (Enclosure × List Value)} {items final : List Value} {ls : List Lexeme}

/-- A token that is no bracket can stand in front. -/
theorem Unwinds.leaf {l : Lexeme} {v : Value} (hvalue : l.token.value? = some v)
    (hcall : (∃ name, l.token = .symbol name) → ¬ BeginsCall ls)
    (h : Unwinds enclosing (items ++ [v]) ls final) : Unwinds enclosing items (l :: ls) final := by
  have hfront : ∀ ls' vs, ls' <+: ls → Forest ls' vs → Forest ([l] ++ ls') (v :: vs) :=
    fun ls' vs hwithin => .leaf hvalue fun hname => not_beginsCall_of_isPrefix (hcall hname) hwithin
  exact h.append hfront

/-- A bracket that is closed later can be opened in front. -/
theorem Unwinds.enclosed {e : Enclosure} (h : Unwinds ((e, items) :: enclosing) e.head ls final)
    (spaced : Bool) : Unwinds enclosing items (⟨spaced, .opening e⟩ :: ls) final := by
  obtain ⟨inner, vs, spaced', behind, rfl, hinner, hbehind⟩ := h
  have hfront : ∀ ls' vs', ls' <+: behind → Forest ls' vs' →
      Forest (⟨spaced, .opening e⟩ :: inner ++ [⟨spaced', .closing e⟩] ++ ls')
        (.list (e.head ++ vs) :: vs') := by
    intro ls' vs' _ hls'
    have henclosed : Forest (⟨spaced, .opening e⟩ :: inner ++ ⟨spaced', .closing e⟩ :: ls')
        (.list (e.head ++ vs) :: vs') := .enclosed hinner hls'
    simpa using henclosed
  simpa using hbehind.append hfront

/-- A call that is closed later can be opened in front. -/
theorem Unwinds.call {name : Text}
    (h : Unwinds ((.list, items) :: enclosing) [.symbol name] ls final) (spaced : Bool) :
    Unwinds enclosing items (⟨spaced, .symbol name⟩ :: ⟨false, .opening .list⟩ :: ls) final := by
  obtain ⟨inner, vs, spaced', behind, rfl, hinner, hbehind⟩ := h
  have hfront : ∀ ls' vs', ls' <+: behind → Forest ls' vs' →
      Forest (⟨spaced, .symbol name⟩ :: ⟨false, .opening .list⟩ :: inner ++
        [⟨spaced', .closing .list⟩] ++ ls') (.list ([.symbol name] ++ vs) :: vs') := by
    intro ls' vs' _ hls'
    have hcall : Forest (⟨spaced, .symbol name⟩ :: ⟨false, .opening .list⟩ :: inner ++
        ⟨spaced', .closing .list⟩ :: ls') (.list (.symbol name :: vs) :: vs') := .call hinner hls'
    simpa using hcall
  simpa using hbehind.append hfront

end Unwinds

/-- Lexemes that the machine settles with no bracket left open have the open ones closed. -/
theorem unwinds_of_settle {st : Nesting} {ls : List Lexeme} {final : List Value}
    (h : settle st ls = some ⟨final, []⟩) : Unwinds st.enclosing st.items ls final := by
  fun_induction settle st ls with
  | case1 st =>
    obtain rfl : st = ⟨final, []⟩ := Option.some.inj h
    exact ⟨[], .nil, by simp⟩
  | case2 st spaced n ls ih => exact .leaf rfl (by simp) (ih h)
  | case3 st spaced b ls ih => exact .leaf rfl (by simp) (ih h)
  | case4 st spaced contents ls ih => exact .leaf rfl (by simp) (ih h)
  | case5 st spaced name ls ih => exact (ih h).call spaced
  | case6 st spaced name ls hcall ih =>
    exact .leaf rfl (fun _ ⟨more, heq⟩ => hcall more heq) (ih h)
  | case7 st spaced e ls ih => exact (ih h).enclosed spaced
  | case8 st spaced e ls st' hleave ih =>
    obtain ⟨items, enclosing⟩ := st
    cases enclosing with
    | nil => simp [Nesting.leave?] at hleave
    | cons enclosure enclosing =>
      obtain ⟨opened, outer⟩ := enclosure
      simp only [Nesting.leave?, Option.ite_none_right_eq_some, Option.some.injEq] at hleave
      obtain ⟨rfl, rfl⟩ := hleave
      exact ⟨[], [], spaced, ls, rfl, .nil, by simpa using ih h⟩
  | case9 st spaced e ls hleave => simp at h

/-- Lexemes form a forest exactly if the machine settles them with no bracket left open. -/
theorem forest_iff {ls : List Lexeme} {vs : List Value} :
    Forest ls vs ↔ settle .empty ls = some ⟨vs, []⟩ := by
  constructor
  · intro h
    have hnothing : ¬ BeginsCall [] := by simp [BeginsCall]
    simpa [Nesting.empty, settle] using h.settle_append .empty hnothing
  · intro h
    obtain ⟨vs', hforest, rfl⟩ := unwinds_of_settle h
    simpa [Nesting.empty] using hforest

/-- A source is read with given forms exactly if the grammar derives them: the source splits into
tokens and the tokens nest into the forms. -/
theorem parseAll_eq_ok_iff_grammar (source : Text) (forms : List Value) :
    parseAll source = .ok forms ↔ ∃ ls, Lexes source.runes ls ∧ Forest ls forms := by
  rw [parseAll_eq_ok_iff_verdict, verdict_eq_forms_iff]
  constructor
  · rintro ⟨hending, hsettle⟩
    exact ⟨_, lexes_scan hending, forest_iff.mpr hsettle⟩
  · rintro ⟨ls, hlexes, hforest⟩
    rw [hlexes.scan_eq]
    exact ⟨rfl, forest_iff.mp hforest⟩

end Lisplet.Reader
