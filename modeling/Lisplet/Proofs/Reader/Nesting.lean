import Lisplet.Proofs.Reader.Lexer

/-!
# Scanning and nesting

A source is scanned into lexemes, which are tokens with a note on the white space in front of them.
The lexemes then run through a machine that keeps the open brackets and the values that stand in
each of them. What comes out is the verdict on the source: its forms, or that it is unfinished and
could go on to something readable, or that it is refused.
-/

namespace Lisplet.Reader

/-! ### Lexemes -/

/-- A token in its place. -/
structure Lexeme where
  /-- Whether white space stands in front of the token. -/
  spaced : Bool
  /-- The token. -/
  token : Token

/-- How the lexemes of a source end. -/
inductive Ending where
  /-- The source is used up. -/
  | complete
  /-- A string has no end. -/
  | unterminated
  /-- Something follows that begins no token. -/
  | refused
  deriving DecidableEq

/-- The lexemes of a source and how they end. -/
structure Scan where
  /-- The lexemes, in the order of the source. -/
  lexemes : List Lexeme
  /-- What stands behind the last of them. -/
  ending : Ending

/-- Lexemes that make a call of a symbol in front of them: a round bracket comes first, without
white space. -/
def BeginsCall (ls : List Lexeme) : Prop := ∃ more, ls = ⟨false, .opening .list⟩ :: more

/-- A scan with one more lexeme in front. -/
def Scan.cons (l : Lexeme) (s : Scan) : Scan := ⟨l :: s.lexemes, s.ending⟩

/-- White space ends words. -/
theorem isBlank_of_endsWord {r : Rune} (h : endsWord r = false) : r.isBlank = false := by
  rw [endsWord, Bool.or_eq_false_iff] at h
  exact h.1

/-- A token begins with a rune that is no white space. -/
theorem IsToken.head {written behind : List Rune} {t : Token} (h : IsToken written behind t) :
    ∃ r rest, written = r :: rest ∧ r.isBlank = false := by
  have hword : ∀ rs : List Rune, rs ≠ [] → (∀ r ∈ rs, endsWord r = false) →
      ∃ r rest, rs = r :: rest ∧ r.isBlank = false := by
    intro rs hne hrunes
    obtain ⟨r, rest, rfl⟩ := List.exists_cons_of_ne_nil hne
    exact ⟨r, rest, rfl, isBlank_of_endsWord (hrunes r (by simp))⟩
  cases h with
  | number hnumeral =>
    obtain ⟨front, more, rfl, hne, -, hrunes⟩ := hnumeral.1.front
    obtain ⟨r, rest, rfl, hr⟩ := hword front hne fun r hr => (hrunes r hr).1
    exact ⟨r, rest ++ more, rfl, hr⟩
  | @truth _ _ b hspelling =>
    obtain ⟨hne, hwritten, -⟩ := truthSpellings_spec b written hspelling
    exact hword written hne hwritten
  | @string contents => exact ⟨.char '"', contents ++ [.char '"'], rfl, by decide⟩
  | @opening e => exact ⟨.char e.bracket.opening, [], rfl, by cases e <;> decide⟩
  | @closing e => exact ⟨.char e.bracket.closing, [], rfl, by cases e <;> decide⟩
  | symbol hne hwritten => exact hword written hne hwritten

/-- A token takes at least one rune. -/
theorem length_lt_of_lex {rs behind : List Rune} {t : Token} (h : lex rs = .token t behind) :
    behind.length < rs.length := by
  obtain ⟨written, rfl, htoken⟩ := isToken_of_lex h
  obtain ⟨r, rest, rfl, -⟩ := htoken.head
  simp only [List.length_append, List.length_cons]
  omega

/-- The lexemes of a source. -/
def scan (rs : List Rune) : Scan :=
  if rs.all Rune.isBlank then ⟨[], .complete⟩
  else
    match _hlex : lex (rs.dropWhile Rune.isBlank) with
    | .unterminated => ⟨[], .unterminated⟩
    | .refused => ⟨[], .refused⟩
    | .token t behind => (scan behind).cons ⟨rs.head?.any Rune.isBlank, t⟩
termination_by rs.length
decreasing_by
  exact (length_lt_of_lex _hlex).trans_le (List.dropWhile_suffix _).length_le

/-- There are no lexemes in white space. -/
theorem scan_of_blank {rs : List Rune} (h : ∀ r ∈ rs, r.isBlank = true) :
    scan rs = ⟨[], .complete⟩ := by
  rw [scan, if_pos (List.all_eq_true.mpr h)]

/-- The white space in front may be empty. -/
theorem no_blanks : ∀ r ∈ ([] : List Rune), r.isBlank = true := by simp

/-- A source is white space and what stands behind it. -/
theorem exists_blanks (rs : List Rune) :
    ∃ blanks front, rs = blanks ++ front ∧ (∀ r ∈ blanks, r.isBlank = true) ∧
      StopsAt Rune.isBlank front :=
  ⟨rs.takeWhile Rune.isBlank, rs.dropWhile Rune.isBlank, List.takeWhile_append_dropWhile.symm,
    fun _ hr => List.mem_takeWhile_imp hr, stopsAt_dropWhile _ _⟩

/-- White space in front of a token is noted and skipped. -/
theorem scan_append {blanks front : List Rune} (hblanks : ∀ r ∈ blanks, r.isBlank = true)
    (hfront : StopsAt Rune.isBlank front) (hne : front ≠ []) :
    scan (blanks ++ front) =
      match lex front with
      | .unterminated => ⟨[], .unterminated⟩
      | .refused => ⟨[], .refused⟩
      | .token t behind => (scan behind).cons ⟨!blanks.isEmpty, t⟩ := by
  obtain ⟨r, rest, rfl⟩ := List.exists_cons_of_ne_nil hne
  have hr : r.isBlank = false := hfront r (by simp)
  have hnot : ¬ (blanks ++ r :: rest).all Rune.isBlank = true := by simp [hr]
  have hspaced : (blanks ++ r :: rest).head?.any Rune.isBlank = !blanks.isEmpty := by
    cases blanks with
    | nil => simp [hr]
    | cons b blanks => simp [hblanks b (by simp)]
  rw [scan, if_neg hnot, hspaced, dropWhile_append_of_stopsAt hblanks hfront]
  split <;> simp_all

/-- A token, with or without white space in front of it, is the first lexeme. -/
theorem scan_token {blanks front behind : List Rune} {t : Token}
    (hblanks : ∀ r ∈ blanks, r.isBlank = true) (hlex : lex front = .token t behind) :
    scan (blanks ++ front) = (scan behind).cons ⟨!blanks.isEmpty, t⟩ := by
  obtain ⟨written, rfl, htoken⟩ := isToken_of_lex hlex
  obtain ⟨r, rest, rfl, hr⟩ := htoken.head
  rw [scan_append hblanks (by simpa [StopsAt] using hr) (by simp), hlex]

/-- Only a round bracket that stands first makes a call. -/
theorem not_beginsCall_scan {rs : List Rune} (h : rs.head? ≠ some (.char '(')) :
    ¬ BeginsCall (scan rs).lexemes := by
  rintro ⟨more, hscan⟩
  obtain ⟨blanks, front, rfl, hblanks, hfront⟩ := exists_blanks rs
  by_cases hne : front = []
  · rw [hne, List.append_nil, scan_of_blank hblanks] at hscan
    simp at hscan
  · rw [scan_append hblanks hfront hne] at hscan
    split at hscan
    · simp at hscan
    · simp at hscan
    · rename_i t behind hlex
      obtain ⟨⟨hspaced, rfl⟩, -⟩ : (blanks = [] ∧ t = .opening .list) ∧ _ := by
        simpa [Scan.cons] using hscan
      obtain ⟨written, rfl, htoken⟩ := isToken_of_lex hlex
      cases htoken
      exact h (by simp [hspaced, Enclosure.bracket, Bracket.round])

/-! ### The machine -/

/-- The values that were read, and the brackets around the place that was reached. -/
structure Nesting where
  /-- The items of the innermost bracket that is open. -/
  items : List Value
  /-- The open brackets, the innermost first, each with the items in front of it. -/
  enclosing : List (Enclosure × List Value)

namespace Nesting

/-- Nothing read and nothing open. -/
def empty : Nesting := ⟨[], []⟩

/-- One more item. -/
def push (st : Nesting) (v : Value) : Nesting := ⟨st.items ++ [v], st.enclosing⟩

/-- One more bracket, with its first items. -/
def enter (st : Nesting) (e : Enclosure) (head : List Value) : Nesting :=
  ⟨head, (e, st.items) :: st.enclosing⟩

/-- The items of the innermost bracket become a list, if it is closed by its counterpart. -/
def leave? (st : Nesting) (e : Enclosure) : Option Nesting :=
  match st.enclosing with
  | [] => none
  | (opened, outer) :: more => if opened = e then some ⟨outer ++ [.list st.items], more⟩ else none

end Nesting

/-- The run of the machine over lexemes; there is none if a bracket is closed that is not open. A
symbol with a round bracket right behind it is the first item of that bracket. -/
def settle : Nesting → List Lexeme → Option Nesting
  | st, [] => some st
  | st, ⟨_, .number n⟩ :: ls => settle (st.push (.num n)) ls
  | st, ⟨_, .truth b⟩ :: ls => settle (st.push (.bool b)) ls
  | st, ⟨_, .string contents⟩ :: ls => settle (st.push (.str contents)) ls
  | st, ⟨_, .symbol name⟩ :: ⟨false, .opening .list⟩ :: ls =>
    settle (st.enter .list [.symbol name]) ls
  | st, ⟨_, .symbol name⟩ :: ls => settle (st.push (.symbol name)) ls
  | st, ⟨_, .opening e⟩ :: ls => settle (st.enter e e.head) ls
  | st, ⟨_, .closing e⟩ :: ls =>
    match st.leave? e with
    | some st => settle st ls
    | none => none

/-- What is to be said of a source. -/
inductive Verdict where
  /-- It can be read, and these are its forms. -/
  | forms (vs : List Value)
  /-- It ended too early. -/
  | unfinished
  /-- It cannot be read. -/
  | refused

/-- The verdict on a source that ends in a given state of the machine. -/
def Nesting.finish (st : Nesting) : Verdict :=
  match st.enclosing with
  | [] => .forms st.items
  | _ :: _ => .unfinished

/-- The verdict on the lexemes of a source that is read from a state of the machine. -/
def Scan.verdict (s : Scan) (st : Nesting) : Verdict :=
  match settle st s.lexemes with
  | none => .refused
  | some st =>
    match s.ending with
    | .complete => st.finish
    | .unterminated => .unfinished
    | .refused => .refused

/-- The verdict on a source that is read from a state of the machine. -/
def verdict (st : Nesting) (rs : List Rune) : Verdict := (scan rs).verdict st

/-- A symbol that is not called is one more item. -/
theorem settle_symbol {ls : List Lexeme} (h : ¬ BeginsCall ls) (st : Nesting) (spaced : Bool)
    (name : Text) :
    settle st (⟨spaced, .symbol name⟩ :: ls) = settle (st.push (.symbol name)) ls := by
  rw [settle]
  exact fun more heq => h ⟨more, heq⟩

/-- A token that is no bracket is one more item. -/
theorem settle_leaf {l : Lexeme} {ls : List Lexeme} {v : Value} (hvalue : l.token.value? = some v)
    (hcall : (∃ name, l.token = .symbol name) → ¬ BeginsCall ls) (st : Nesting) :
    settle st (l :: ls) = settle (st.push v) ls := by
  obtain ⟨spaced, t⟩ := l
  cases t with
  | symbol name =>
    cases hvalue
    exact settle_symbol (hcall ⟨name, rfl⟩) st spaced name
  | number n => cases hvalue; rfl
  | truth b => cases hvalue; rfl
  | string contents => cases hvalue; rfl
  | opening e => cases hvalue
  | closing e => cases hvalue

/-- White space in front of the first lexeme does not matter. -/
theorem settle_spaced (st : Nesting) (spaced spaced' : Bool) (t : Token) (ls : List Lexeme) :
    settle st (⟨spaced, t⟩ :: ls) = settle st (⟨spaced', t⟩ :: ls) := by
  cases t with
  | symbol name =>
    by_cases h : BeginsCall ls
    · obtain ⟨more, rfl⟩ := h
      rfl
    · rw [settle_symbol h, settle_symbol h]
  | _ => rfl

/-- The verdict on a source that holds no token. -/
theorem verdict_of_blank {rs : List Rune} (h : ∀ r ∈ rs, r.isBlank = true) (st : Nesting) :
    verdict st rs = st.finish := by
  rw [verdict, scan_of_blank h]
  rfl

/-- White space in front of a source does not change the verdict. -/
theorem verdict_append {blanks front : List Rune} (hblanks : ∀ r ∈ blanks, r.isBlank = true)
    (hfront : StopsAt Rune.isBlank front) (st : Nesting) :
    verdict st (blanks ++ front) = verdict st front := by
  by_cases hne : front = []
  · rw [hne, List.append_nil, verdict_of_blank hblanks, verdict_of_blank no_blanks]
  · have hscan := scan_append no_blanks hfront hne
    rw [List.nil_append] at hscan
    rw [verdict, verdict, scan_append hblanks hfront hne, hscan]
    cases lex front with
    | token t behind =>
      simp only [Scan.verdict, Scan.cons]
      rw [settle_spaced]
    | _ => rfl

/-- A blank in front of a source does not change the verdict. -/
theorem verdict_cons_blank {c : Rune} (hc : c.isBlank = true) (rest : List Rune) (st : Nesting) :
    verdict st (c :: rest) = verdict st rest := by
  obtain ⟨blanks, front, rfl, hblanks, hfront⟩ := exists_blanks rest
  have hmore : ∀ r ∈ c :: blanks, r.isBlank = true := by
    intro r hr
    rcases List.mem_cons.mp hr with rfl | hr
    · exact hc
    · exact hblanks r hr
  rw [← List.cons_append, verdict_append hmore hfront, verdict_append hblanks hfront]

/-- A token is an item, begins a call, opens a bracket or closes one. -/
theorem token_cases (t : Token) (behind : List Rune) :
    (∃ v, t.value? = some v ∧ ((∃ name, t = .symbol name) → behind.head? ≠ some (.char '('))) ∨
      (∃ name rest, t = .symbol name ∧ behind = .char '(' :: rest) ∨
      (∃ e, t = .opening e) ∨ ∃ e, t = .closing e := by
  cases t with
  | symbol name =>
    by_cases hcall : behind.head? = some (.char '(')
    · obtain ⟨rest, rfl⟩ := List.head?_eq_some_iff.mp hcall
      exact Or.inr (Or.inl ⟨name, rest, rfl, rfl⟩)
    · exact Or.inl ⟨.symbol name, rfl, fun _ => hcall⟩
  | number n => exact Or.inl ⟨.num n, rfl, by simp⟩
  | truth b => exact Or.inl ⟨.bool b, rfl, by simp⟩
  | string contents => exact Or.inl ⟨.str contents, rfl, by simp⟩
  | opening e => exact Or.inr (Or.inr (Or.inl ⟨e, rfl⟩))
  | closing e => exact Or.inr (Or.inr (Or.inr ⟨e, rfl⟩))

section Step

variable {rs behind : List Rune}

/-- A string without an end leaves the source unfinished, whatever is open. -/
theorem verdict_unterminated (hfront : StopsAt Rune.isBlank rs) (hlex : lex rs = .unterminated)
    (st : Nesting) : verdict st rs = .unfinished := by
  have hne : rs ≠ [] := by
    rintro rfl
    simp [lex] at hlex
  rw [← List.nil_append rs, verdict, scan_append no_blanks hfront hne, hlex]
  rfl

/-- What begins no token is refused, whatever is open. -/
theorem verdict_refused (hfront : StopsAt Rune.isBlank rs) (hne : rs ≠ [])
    (hlex : lex rs = .refused) (st : Nesting) : verdict st rs = .refused := by
  rw [← List.nil_append rs, verdict, scan_append no_blanks hfront hne, hlex]
  rfl

/-- A token at the front is the first lexeme. -/
theorem verdict_token {t : Token} (hlex : lex rs = .token t behind) (st : Nesting) :
    verdict st rs = ((scan behind).cons ⟨false, t⟩).verdict st := by
  rw [← List.nil_append rs, verdict, scan_token no_blanks hlex]
  rfl

/-- A token that is no bracket and begins no call is one more item. -/
theorem verdict_leaf {t : Token} {v : Value} (hlex : lex rs = .token t behind)
    (hvalue : t.value? = some v)
    (hcall : (∃ name, t = .symbol name) → behind.head? ≠ some (.char '(')) (st : Nesting) :
    verdict st rs = verdict (st.push v) behind := by
  have hleaf : settle st (⟨false, t⟩ :: (scan behind).lexemes) =
      settle (st.push v) (scan behind).lexemes :=
    settle_leaf hvalue (fun hname => not_beginsCall_scan (hcall hname)) st
  rw [verdict_token hlex, Scan.verdict, Scan.cons, hleaf]
  rfl

/-- A symbol right in front of a round bracket is the first item of the bracket. -/
theorem verdict_call {name : Text} (hlex : lex rs = .token (.symbol name) (.char '(' :: behind))
    (st : Nesting) : verdict st rs = verdict (st.enter .list [.symbol name]) behind := by
  have hbracket : lex (.char '(' :: behind) = .token (.opening .list) behind :=
    lex_bracket rfl behind
  have hscan : scan (.char '(' :: behind) = (scan behind).cons ⟨false, .opening .list⟩ :=
    scan_token no_blanks hbracket
  rw [verdict_token hlex, hscan]
  rfl

/-- An opening bracket is entered. -/
theorem verdict_opening {e : Enclosure} (hlex : lex rs = .token (.opening e) behind)
    (st : Nesting) : verdict st rs = verdict (st.enter e e.head) behind :=
  verdict_token hlex st

/-- A closing bracket is left if it is the counterpart of the one that is open, and refused
otherwise. -/
theorem verdict_closing {e : Enclosure} (hlex : lex rs = .token (.closing e) behind)
    (st : Nesting) :
    verdict st rs =
      match st.leave? e with
      | some st => verdict st behind
      | none => .refused := by
  rw [verdict_token hlex, Scan.verdict, Scan.cons, settle]
  cases st.leave? e <;> rfl

end Step

/-- The machine gives forms exactly where the source is used up and no bracket is left open. -/
theorem verdict_eq_forms_iff {st : Nesting} {rs : List Rune} {vs : List Value} :
    verdict st rs = .forms vs ↔
      (scan rs).ending = .complete ∧ settle st (scan rs).lexemes = some ⟨vs, []⟩ := by
  rw [verdict, Scan.verdict]
  cases hsettle : settle st (scan rs).lexemes with
  | none => simp
  | some st' =>
    obtain ⟨items, enclosing⟩ := st'
    cases (scan rs).ending <;> cases enclosing <;> simp [Nesting.finish]

end Lisplet.Reader
