import Lisplet.Proofs.Reader.Nesting
import Lisplet.Reader.Source

/-!
# The readers and the machine agree

The readers of forms descend into brackets, and the machine of `Lisplet.Proofs.Reader.Nesting` runs
over lexemes with a stack. Whatever a reader gives back, the machine says the same: where a form is
read, the machine has one more item, and where the reading fails, the verdict is that the source is
unfinished or refused.
-/

namespace Lisplet.Reader

/-! ### Readers one by one -/

/-- What a reader gives back, without places. -/
def view {α : Type} : Reading α → Except Bool (α × List Rune)
  | .ok (v, behind) => .ok (v, behind.rest)
  | .error e => .error e.incomplete

/-- A reader does not apply, so that the next one is tried. -/
def Declines {α : Type} (result : Reading α) : Prop :=
  ∃ e, result = .error e ∧ e.kind.fallsThrough = true

/-- A reader with a result applies. -/
theorem not_declines_ok {α : Type} (result : α × Input) : ¬ Declines (.ok result) := by
  rintro ⟨e, heq, -⟩
  cases heq

/-- An error is left to the next reader if its kind falls through. -/
@[simp]
theorem declines_error_iff {α : Type} {e : ReadError} :
    Declines (.error e : Reading α) ↔ e.kind.fallsThrough = true := by
  simp [Declines]

/-- An error of another kind is final. -/
theorem not_declines_error {α : Type} {e : ReadError} (h : e.kind.fallsThrough = false) :
    ¬ Declines (.error e : Reading α) := by
  simp [h]

/-- A reader that does not apply is passed over. -/
theorem firstOf_of_declines {i : Input} {production : Input → Reading Value}
    (h : Declines (production i)) (rest : List (Input → Reading Value)) :
    firstOf i (production :: rest) = firstOf i rest := by
  obtain ⟨e, heq, hfalls⟩ := h
  simp [firstOf, heq, hfalls]

/-- The first reader that applies gives the answer. -/
theorem firstOf_of_not_declines {i : Input} {production : Input → Reading Value}
    (h : ¬ Declines (production i)) (rest : List (Input → Reading Value)) :
    firstOf i (production :: rest) = production i := by
  cases heq : production i with
  | ok result => simp [firstOf, heq]
  | error e =>
    have hfalls : e.kind.fallsThrough ≠ true := fun hfalls => h ⟨e, heq, hfalls⟩
    simp [firstOf, heq, hfalls]

/-- The first reader that applies decides. -/
theorem not_declines_firstOf (i : Input) (productions : List (Input → Reading Value)) :
    ¬ Declines (firstOf i productions) := by
  induction productions with
  | nil =>
    rintro ⟨e, heq, hfalls⟩
    cases heq
    exact absurd hfalls (by simp [ReadError.located, ReadErrorKind.fallsThrough])
  | cons production rest ih =>
    by_cases h : Declines (production i)
    · rwa [firstOf_of_declines h]
    · rwa [firstOf_of_not_declines h]

/-- Some reader of a form always applies: the last one takes every symbol and refuses the rest. -/
theorem not_declines_formWithin (depth : Nat) (i : Input) : ¬ Declines (formWithin depth i) := by
  cases depth with
  | zero => exact not_declines_firstOf i []
  | succ depth => exact not_declines_firstOf i (productions (formWithin depth))

/-- What an input looks at is its first rune. -/
theorem looksAt_eq_true_iff {i : Input} {c : Char} :
    i.looksAt c = true ↔ i.rest.head? = some (.char c) := by
  simp only [Input.looksAt, Input.peek?]
  cases i.rest.head? <;> simp

/-- The reader of numbers does not apply where no number begins. -/
theorem number_declines {i : Input} (h : ¬ BeginsNumber i.rest) : Declines (number i) := by
  rw [number, numeral?_eq_none_iff.mpr h]
  exact ⟨_, rfl, rfl⟩

/-- In front of a numeral it gives its number, or an error that more input does not mend. -/
theorem number_applies {i : Input} {written behind : List Rune} (hi : i.rest = written ++ behind)
    (h : IsNumeral written behind) :
    ¬ Declines (number i) ∧
      view (number i) =
        match numberOf? written with
        | some n => .ok (.num n, behind)
        | none => .error false := by
  have hfound : numeral? i.rest = some written := numeral?_eq_some_iff.mpr ⟨behind, hi, h⟩
  simp only [number, hfound]
  by_cases hpoints : 1 < written.countP (fun r => r.isChar '.')
  · have hnone : numberOf? written = none := by rw [numberOf?, if_pos hpoints]
    rw [if_pos hpoints, hnone]
    exact ⟨not_declines_error rfl, rfl⟩
  · have hcount : (written ++ []).count (Rune.char '.') ≤ 1 := by
      rw [List.append_nil]
      exact not_lt.mp hpoints
    have hnothing : ∀ r ∈ ([] : List Rune), isNumeralRune r = true := by simp
    obtain ⟨n, -, hparse, -⟩ := parse?_numeral_append h hnothing hcount
    rw [if_neg hpoints, hparse, Option.getD_some]
    cases hinf : n.isInf with
    | true =>
      have hnone : numberOf? written = none := by
        rw [numberOf?, if_neg hpoints, hparse, Option.filter_some, hinf]
        rfl
      rw [if_pos rfl, hnone]
      exact ⟨not_declines_error rfl, rfl⟩
    | false =>
      have hsome : numberOf? written = some n := by
        rw [numberOf?, if_neg hpoints, hparse, Option.filter_some, hinf]
        rfl
      rw [if_neg (by simp), hsome]
      refine ⟨not_declines_ok _, ?_⟩
      simp [view, hi]

/-- The reader of truth values finds their spellings in front of a boundary. -/
theorem truth?_eq_some_iff {letter : Rune} {b : Bool} :
    truth? letter = some b ↔ [.char '#', letter] ∈ truthSpellings b := by
  simp only [truth?, Bool.or_eq_true, Rune.isChar_iff]
  split_ifs with htrue hfalse
  · rcases htrue with rfl | rfl <;> cases b <;> decide
  · rcases hfalse with rfl | rfl <;> cases b <;> decide
  · cases b <;> simp_all [truthSpellings]

/-- The reader of truth values finds the one that the lexer finds. -/
theorem boolean_applies {i : Input} {b : Bool} {behind : List Rune}
    (h : lex i.rest = .token (.truth b) behind) :
    ¬ Declines (boolean i) ∧ view (boolean i) = .ok (.bool b, behind) := by
  obtain ⟨written, hi, htoken⟩ := isToken_of_lex h
  cases htoken with
  | truth hspelling hstop =>
    have hshape : ∃ letter, written = [.char '#', letter] := by
      cases b <;> simp only [truthSpellings, if_true, Bool.false_eq_true, if_false, List.mem_cons,
        List.not_mem_nil, or_false] at hspelling <;> rcases hspelling with rfl | rfl <;>
        exact ⟨_, rfl⟩
    obtain ⟨letter, rfl⟩ := hshape
    have htruth : truth? letter = some b := truth?_eq_some_iff.mpr hspelling
    have hboundary : behind.head?.all endsWord = true := by
      cases behind with
      | nil => rfl
      | cons r rest => simpa using hstop r (by simp)
    have hhash : (Rune.char '#').isChar '#' = true := by decide
    simp only [boolean, isBoundary_eq_endsWord, hi, List.cons_append, List.nil_append, hhash,
      if_true, htruth, hboundary]
    exact ⟨not_declines_ok _, rfl⟩

/-- It does not apply where the lexer finds none. -/
theorem boolean_declines {i : Input} (h : ∀ b behind, lex i.rest ≠ .token (.truth b) behind) :
    Declines (boolean i) := by
  unfold boolean
  split
  · rename_i hash letter rest hi
    split
    · rename_i b hb
      split_ifs with hboundary
      · -- Such runes would be a truth value.
        rw [Option.ite_none_right_eq_some, Rune.isChar_iff] at hb
        obtain ⟨rfl, htruth⟩ := hb
        have hstop : StopsAt (fun r => !endsWord r) rest := by
          intro r hr
          rw [Option.all_eq_true, isBoundary_eq_endsWord] at hboundary
          simp [hboundary r hr]
        have hlex := lex_of_isToken (.truth (truth?_eq_some_iff.mp htruth) hstop)
        exact absurd hlex (by simpa [hi] using h b rest)
      · exact ⟨_, rfl, rfl⟩
    · exact ⟨_, rfl, rfl⟩
  · exact ⟨_, rfl, rfl⟩

/-- The reader of strings does not apply where there is no quote. -/
theorem string_declines {i : Input} (h : i.rest.head? ≠ some (.char '"')) :
    Declines (string i) := by
  have hlooks : ¬ i.looksAt '"' = true := by rwa [looksAt_eq_true_iff]
  rw [string, if_neg hlooks]
  exact ⟨_, rfl, rfl⟩

/-- Behind a quote it finds the string that the lexer finds, or ran out of input. -/
theorem string_applies {i : Input} {rest : List Rune} (hi : i.rest = .char '"' :: rest) :
    ¬ Declines (string i) ∧
      view (string i) =
        match lexString rest with
        | .token (.string contents) behind => .ok (.str contents, behind)
        | _ => .error true := by
  have hlooks : i.looksAt '"' = true := by rw [looksAt_eq_true_iff, hi]; rfl
  have hrest : i.advance.rest = rest := by simp [Input.advance, hi]
  rw [string, if_pos hlooks, lexString]
  simp only [Input.span, Input.atEnd, hrest]
  cases rest.dropWhile fun r => !r.isChar '"' with
  | nil => exact ⟨not_declines_error rfl, rfl⟩
  | cons quote behind => exact ⟨not_declines_ok _, rfl⟩

/-- The reader of symbols takes a word up to its end. -/
theorem symbol_of_word {i : Input} {written behind : List Rune} (hi : i.rest = written ++ behind)
    (hne : written ≠ []) (hwritten : ∀ r ∈ written, endsWord r = false)
    (hstop : StopsAt (fun r => !endsWord r) behind) :
    ∃ place, symbol i = .ok (.symbol (Text.ofRunes written), ⟨place, behind⟩) := by
  have hrun : ∀ r ∈ written, (!endsWord r) = true := fun r hr => by simp [hwritten r hr]
  have hnonempty : ¬ written.isEmpty = true := by simpa using hne
  simp only [symbol, isBoundary_eq_endsWord, Input.span, hi,
    takeWhile_append_of_stopsAt hrun hstop, dropWhile_append_of_stopsAt hrun hstop,
    if_neg hnonempty]
  exact ⟨_, rfl⟩

/-- At the end of a word there is no symbol, and the error is final. -/
theorem symbol_of_boundary {i : Input} {r : Rune} {rest : List Rune} (hi : i.rest = r :: rest)
    (hr : endsWord r = true) :
    ∃ e, symbol i = .error e ∧ e.incomplete = false ∧ e.kind.fallsThrough = false := by
  have hnone : (r :: rest).takeWhile (fun r => !endsWord r) = [] := by simp [hr]
  simp only [symbol, isBoundary_eq_endsWord, Input.span, hi, hnone, List.isEmpty_nil, if_true]
  exact ⟨_, rfl, rfl, rfl⟩

/-- The reader of a bracket does not apply where the bracket does not open. -/
theorem sequence_declines {item : Input → Reading Value} {b : Bracket} {i : Input}
    (h : i.rest.head? ≠ some (.char b.opening)) : Declines (sequence item b i) := by
  have hlooks : ¬ i.looksAt b.opening = true := by rwa [looksAt_eq_true_iff]
  rw [sequence, if_neg hlooks]
  exact ⟨_, rfl, rfl⟩

/-- Behind an opening bracket its items are read. -/
theorem sequence_applies {b : Bracket} {i : Input} {rest : List Rune}
    (hi : i.rest = .char b.opening :: rest) (item : Input → Reading Value) :
    ∃ place, sequence item b i = itemsFrom item b i.place (rest.length + 1) ⟨place, rest⟩ := by
  have hlooks : i.looksAt b.opening = true := by rw [looksAt_eq_true_iff, hi]; rfl
  rw [sequence, if_pos hlooks]
  simp only [Input.advance, hi, List.length_cons]
  exact ⟨_, rfl⟩

/-- Items that were read become a list, with given items in front. -/
def enclose (head : List Value) : Reading (List Value) → Reading Value
  | .error e => .error e
  | .ok (vs, behind) => .ok (.list (head ++ vs), behind)

/-- Items in front do not matter to whether a reader applies. -/
theorem declines_enclose_iff {head : List Value} {items : Reading (List Value)} :
    Declines (enclose head items) ↔ Declines items := by
  cases items with
  | error e => simp [enclose]
  | ok read => exact iff_of_false (not_declines_ok _) (not_declines_ok _)

/-- A list holds the items in round brackets. -/
theorem list_eq_enclose (item : Input → Reading Value) (i : Input) :
    list item i = enclose [] (sequence item .round i) := by
  rw [list]
  cases sequence item .round i <;> rfl

/-- A block holds the symbol `do` and the items in braces. -/
theorem block_eq_enclose (item : Input → Reading Value) (i : Input) :
    block item i = enclose [.symbol (text "do")] (sequence item .brace i) := by
  rw [block]
  cases sequence item .brace i <;> rfl

/-- A call holds a symbol and the items in the round brackets right behind it. -/
theorem call_eq_enclose {i behind : Input} {name : Value} (hsymbol : symbol i = .ok (name, behind))
    (hlooks : behind.rest.head? = some (.char '(')) (item : Input → Reading Value) :
    call item i = enclose [name] (sequence item .round behind) := by
  simp only [call, hsymbol, looksAt_eq_true_iff.mpr hlooks, if_true]
  cases sequence item .round behind <;> rfl

/-- The reader of calls does not apply where no bracket stands right behind a symbol. -/
theorem call_declines {i : Input} (h : ∀ name behind, symbol i = .ok (name, behind) →
    behind.rest.head? ≠ some (.char '(')) (item : Input → Reading Value) :
    Declines (call item i) := by
  rw [call]
  cases hsymbol : symbol i with
  | error e => exact ⟨_, rfl, rfl⟩
  | ok read =>
    obtain ⟨name, behind⟩ := read
    have hlooks : ¬ behind.looksAt '(' = true := by
      rw [looksAt_eq_true_iff]
      exact h name behind hsymbol
    simp only [if_neg hlooks]
    exact ⟨_, rfl, rfl⟩

/-- A failure inside of brackets is final. -/
theorem not_declines_itemsFrom {item : Input → Reading Value} (hitem : ∀ i, ¬ Declines (item i))
    (e : Enclosure) (opened : Position) (fuel : Nat) (i : Input) :
    ¬ Declines (itemsFrom item e.bracket opened fuel i) := by
  induction fuel generalizing i with
  | zero => exact not_declines_error (by cases e <;> rfl)
  | succ fuel ih =>
    rw [itemsFrom]
    split
    · exact not_declines_error (by cases e <;> rfl)
    · split_ifs
      · exact not_declines_ok _
      · exact not_declines_error (by cases e <;> rfl)
      · have hfirst := hitem i.skipBlanks
        cases hresult : item i.skipBlanks with
        | error err => simpa [hresult] using hfirst
        | ok read =>
          obtain ⟨v, behind⟩ := read
          have hmore := ih behind
          simp only
          cases hitems : itemsFrom item e.bracket opened fuel behind with
          | error err => simpa [hitems] using hmore
          | ok read => exact not_declines_ok _

/-! ### What a form begins with -/

section Form

variable {item : Input → Reading Value} {i : Input} {behind : List Rune}

/-- A token that is no number begins like none. -/
theorem not_beginsNumber_of_lex {t : Token} (hlex : lex i.rest = .token t behind)
    (ht : ∀ n, t ≠ .number n) : ¬ BeginsNumber i.rest := by
  intro hbegins
  have hfound : numeral? i.rest ≠ none := fun hnone => numeral?_eq_none_iff.mp hnone hbegins
  obtain ⟨written, hwritten⟩ := Option.ne_none_iff_exists'.mp hfound
  obtain ⟨rest, hrest, hnumeral⟩ := numeral?_eq_some_iff.mp hwritten
  rw [hrest, lex_numeral hnumeral] at hlex
  split at hlex
  · cases hlex
    exact ht _ rfl
  · cases hlex

/-- Without a number, a truth value or a string, a form is bracketed, a call or a symbol. -/
theorem firstOf_productions (hnumber : ¬ BeginsNumber i.rest)
    (htruth : ∀ b behind, lex i.rest ≠ .token (.truth b) behind)
    (hquote : i.rest.head? ≠ some (.char '"')) :
    firstOf i (productions item) = firstOf i [list item, block item, call item, symbol] := by
  rw [productions, firstOf_of_declines (number_declines hnumber),
    firstOf_of_declines (boolean_declines htruth), firstOf_of_declines (string_declines hquote)]

/-- The reader of lists does not apply where there is no round bracket. -/
theorem list_declines (h : i.rest.head? ≠ some (.char '(')) : Declines (list item i) := by
  rw [list_eq_enclose, declines_enclose_iff]
  exact sequence_declines h

/-- The reader of blocks does not apply where there is no brace. -/
theorem block_declines (h : i.rest.head? ≠ some (.char '\x7b')) : Declines (block item i) := by
  rw [block_eq_enclose, declines_enclose_iff]
  exact sequence_declines h

/-- No form begins with a boundary that opens no bracket. -/
theorem view_firstOf_boundary {r : Rune} {rest : List Rune} (hi : i.rest = r :: rest)
    (hr : endsWord r = true) (hround : r ≠ .char '(') (hbrace : r ≠ .char '\x7b')
    (hlex : ∀ b behind, lex i.rest ≠ .token (.truth b) behind) :
    view (firstOf i (productions item)) = .error false := by
  have hnumber : ¬ BeginsNumber i.rest := by
    rw [hi]
    intro hbegins
    rw [hbegins.head.1] at hr
    cases hr
  have hquote : i.rest.head? ≠ some (.char '"') := by
    rw [hi, List.head?_cons, ne_eq, Option.some.injEq]
    rintro rfl
    exact absurd hr (by decide)
  obtain ⟨e, hsymbol, hincomplete, hfinal⟩ := symbol_of_boundary hi hr
  have hcall : Declines (call item i) := call_declines (by simp [hsymbol]) item
  rw [firstOf_productions hnumber hlex hquote,
    firstOf_of_declines (list_declines (by simpa [hi] using hround)),
    firstOf_of_declines (block_declines (by simpa [hi] using hbrace)), firstOf_of_declines hcall,
    firstOf_of_not_declines (hsymbol ▸ not_declines_error hfinal), hsymbol]
  exact congrArg Except.error hincomplete

/-- Where no token begins, no form does. -/
theorem view_firstOf_refused (hne : i.rest ≠ []) (hlex : lex i.rest = .refused) :
    view (firstOf i (productions item)) = .error false := by
  obtain ⟨r, rest, hi⟩ := List.exists_cons_of_ne_nil hne
  rcases lex_cases r rest with ⟨written, behind, heq, hnumeral⟩ | rfl | ⟨t, hbracket⟩ |
    ⟨hnumber, hquote, hbracket⟩
  · obtain ⟨hnot, hview⟩ := number_applies (hi.trans heq) hnumeral
    rw [hi, heq, lex_numeral hnumeral] at hlex
    rw [productions, firstOf_of_not_declines hnot, hview]
    cases hnumber : numberOf? written with
    | some n => simp [hnumber] at hlex
    | none => rfl
  · rw [hi, lex_quote, lexString] at hlex
    split at hlex <;> cases hlex
  · rw [hi, lex_bracket hbracket] at hlex
    cases hlex
  · cases hboundary : endsWord r with
    | true =>
      obtain ⟨hround, -, hbrace, -⟩ := bracket?_eq_none_iff.mp hbracket
      exact view_firstOf_boundary hi hboundary hround hbrace (by simp [hlex])
    | false =>
      obtain ⟨written, behind, heq, hwritten, hrunes, hstop⟩ := exists_word hboundary rest
      rw [hi, lex_word hnumber hquote hbracket, heq, lexWord_append hwritten hrunes hstop] at hlex
      split at hlex <;> cases hlex

/-- A string without an end is not read. -/
theorem view_firstOf_unterminated (hlex : lex i.rest = .unterminated) :
    view (firstOf i (productions item)) = .error true := by
  obtain ⟨rest, hi, hrest⟩ := lex_eq_unterminated hlex
  obtain ⟨hnot, hview⟩ := string_applies hi
  have hnumber : ¬ BeginsNumber i.rest := fun hbegins => (hi ▸ hbegins).head.2 rfl
  rw [lexString_of_not_mem hrest] at hview
  rwa [productions, firstOf_of_declines (number_declines hnumber),
    firstOf_of_declines (boolean_declines (by simp [hlex])), firstOf_of_not_declines hnot]

/-- A word that is a symbol is called or stands for itself. -/
theorem firstOf_symbol {name : Text} (hlex : lex i.rest = .token (.symbol name) behind)
    (item : Input → Reading Value) :
    firstOf i (productions item) = firstOf i [call item, symbol] ∧
      ∃ place, symbol i = .ok (.symbol name, ⟨place, behind⟩) := by
  have hnumber := not_beginsNumber_of_lex hlex (by simp)
  obtain ⟨written, hi, htoken⟩ := isToken_of_lex hlex
  cases htoken with
  | symbol hne hwritten hstop hbegins htruth hquote =>
    obtain ⟨r, rest, rfl⟩ := List.exists_cons_of_ne_nil hne
    have hword : endsWord r = false := hwritten r (by simp)
    obtain ⟨hround, -, hbrace, -⟩ :=
      bracket?_eq_none_iff.mp (bracket?_eq_none_of_endsWord hword)
    refine ⟨?_, symbol_of_word hi hne hwritten hstop⟩
    rw [firstOf_productions hnumber (by simp [hlex]) (by simpa [hi] using hquote),
      firstOf_of_declines (list_declines (by simpa [hi] using hround)),
      firstOf_of_declines (block_declines (by simpa [hi] using hbrace))]

/-- A token that is no bracket and begins no call is a form. -/
theorem view_firstOf_leaf {t : Token} {v : Value} (hlex : lex i.rest = .token t behind)
    (hvalue : t.value? = some v)
    (hcall : (∃ name, t = .symbol name) → behind.head? ≠ some (.char '(')) :
    view (firstOf i (productions item)) = .ok (v, behind) := by
  cases t with
  | number n =>
    obtain ⟨written, hi, htoken⟩ := isToken_of_lex hlex
    cases htoken with
    | number hnumeral hpoints hparse hinf =>
      obtain ⟨hnot, hview⟩ := number_applies hi hnumeral
      rw [numberOf?_eq_some_iff.mpr ⟨hpoints, hparse, hinf⟩] at hview
      cases hvalue
      rwa [productions, firstOf_of_not_declines hnot]
  | truth b =>
    obtain ⟨hnot, hview⟩ := boolean_applies hlex
    have hnumber := not_beginsNumber_of_lex hlex (by simp)
    cases hvalue
    rwa [productions, firstOf_of_declines (number_declines hnumber), firstOf_of_not_declines hnot]
  | string contents =>
    have hnumber := not_beginsNumber_of_lex hlex (by simp)
    obtain ⟨written, hi, htoken⟩ := isToken_of_lex hlex
    cases htoken with
    | @string runes _ hcontents =>
      have hquote : i.rest = .char '"' :: (runes ++ .char '"' :: behind) := by simp [hi]
      obtain ⟨hnot, hview⟩ := string_applies hquote
      rw [lexString_append hcontents] at hview
      cases hvalue
      rwa [productions, firstOf_of_declines (number_declines hnumber),
        firstOf_of_declines (boolean_declines (by simp [hlex])), firstOf_of_not_declines hnot]
  | symbol name =>
    obtain ⟨hfirst, place, hsymbol⟩ := firstOf_symbol hlex item
    have hdeclines : Declines (call item i) := by
      refine call_declines (fun name' opened heq => ?_) item
      rw [hsymbol] at heq
      cases heq
      exact hcall ⟨name, rfl⟩
    cases hvalue
    rw [hfirst, firstOf_of_declines hdeclines,
      firstOf_of_not_declines (hsymbol ▸ not_declines_ok _), hsymbol]
    rfl
  | opening e => cases hvalue
  | closing e => cases hvalue

section Bracketed

variable (hitem : ∀ i, ¬ Declines (item i))
include hitem

/-- A failure behind an opening bracket is final. -/
theorem not_declines_sequence {e : Enclosure} {rest : List Rune}
    (hi : i.rest = .char e.bracket.opening :: rest) :
    ¬ Declines (sequence item e.bracket i) := by
  obtain ⟨place, hsequence⟩ := sequence_applies hi item
  rw [hsequence]
  exact not_declines_itemsFrom hitem e _ _ _

/-- An opening bracket begins a list or a block. -/
theorem firstOf_opening {e : Enclosure} (hlex : lex i.rest = .token (.opening e) behind) :
    i.rest = .char e.bracket.opening :: behind ∧
      firstOf i (productions item) = enclose e.head (sequence item e.bracket i) := by
  have hnumber := not_beginsNumber_of_lex hlex (by simp)
  obtain ⟨written, hi, htoken⟩ := isToken_of_lex hlex
  cases htoken with
  | opening =>
    rw [List.singleton_append] at hi
    have hnot := not_declines_sequence hitem hi
    refine ⟨hi, ?_⟩
    rw [firstOf_productions hnumber (by simp [hlex]) (by cases e <;> simp [hi, Enclosure.bracket,
      Bracket.round, Bracket.brace])]
    cases e with
    | list =>
      rw [firstOf_of_not_declines, list_eq_enclose]
      · rfl
      · rwa [list_eq_enclose, declines_enclose_iff]
    | block =>
      rw [firstOf_of_declines (list_declines (by simp [hi, Enclosure.bracket, Bracket.brace])),
        firstOf_of_not_declines, block_eq_enclose]
      · rfl
      · rwa [block_eq_enclose, declines_enclose_iff]

/-- A symbol right in front of a round bracket begins a call. -/
theorem firstOf_call {name : Text} {rest : List Rune}
    (hlex : lex i.rest = .token (.symbol name) (.char '(' :: rest)) :
    ∃ place, firstOf i (productions item) =
      enclose [.symbol name] (sequence item .round ⟨place, .char '(' :: rest⟩) := by
  obtain ⟨hfirst, place, hsymbol⟩ := firstOf_symbol hlex item
  have hcall := call_eq_enclose hsymbol rfl item
  have hnot := not_declines_sequence (i := ⟨place, .char '(' :: rest⟩) (e := .list) hitem rfl
  refine ⟨place, ?_⟩
  rw [hfirst, firstOf_of_not_declines, hcall]
  rwa [hcall, declines_enclose_iff]

end Bracketed

end Form

/-! ### Agreement -/

/-- The verdict on a source whose reading failed. -/
def failed (incomplete : Bool) : Verdict := if incomplete then .unfinished else .refused

/-- A reader of a form agrees with the machine: it has moved on, and the form is one more item. -/
def Agrees (result : Reading Value) (rs : List Rune) : Prop :=
  match view result with
  | .ok (v, behind) =>
    behind.length < rs.length ∧ ∀ st, verdict st rs = verdict (st.push v) behind
  | .error incomplete => ∀ st, verdict st rs = failed incomplete

/-- A reader of the items of a bracket agrees with the machine: the bracket is closed, and it is one
more item of the bracket around it. -/
def ItemsAgree (e : Enclosure) (result : Reading (List Value)) (rs : List Rune) : Prop :=
  match view result with
  | .ok (vs, behind) =>
    behind.length < rs.length ∧ ∀ items outer more,
      verdict ⟨items, (e, outer) :: more⟩ rs =
        verdict ⟨outer ++ [.list (items ++ vs)], more⟩ behind
  | .error incomplete =>
    ∀ items outer more, verdict ⟨items, (e, outer) :: more⟩ rs = failed incomplete

/-- Runes at which a form may begin. -/
def BeginsForm (rs : List Rune) : Prop :=
  ∃ r rest, rs = r :: rest ∧ r.isBlank = false ∧ r ≠ .char ')' ∧ r ≠ .char '\x7d'

/-- A reader with a result agrees if the machine pushes it. -/
theorem Agrees.of_ok {result : Reading Value} {rs behind : List Rune} {v : Value}
    (h : view result = .ok (v, behind)) (hlength : behind.length < rs.length)
    (hverdict : ∀ st, verdict st rs = verdict (st.push v) behind) : Agrees result rs := by
  rw [Agrees, h]
  exact ⟨hlength, hverdict⟩

/-- A reader with an error agrees if the verdict is this failure in every state. -/
theorem Agrees.of_error {result : Reading Value} {rs : List Rune} {incomplete : Bool}
    (h : view result = .error incomplete) (hverdict : ∀ st, verdict st rs = failed incomplete) :
    Agrees result rs := by
  rw [Agrees, h]
  exact hverdict

/-- A closing bracket of one kind does not close a bracket of another. -/
theorem verdict_wrong_closer {r : Rune} (hcloser : isCloser r = true) {e : Enclosure}
    (hr : r ≠ .char e.bracket.closing) (rest : List Rune) (items outer : List Value)
    (more : List (Enclosure × List Value)) :
    verdict ⟨items, (e, outer) :: more⟩ (r :: rest) = .refused := by
  simp only [isCloser, Bool.or_eq_true, Rune.isChar_iff] at hcloser
  rcases hcloser with (rfl | rfl) | rfl
  · have hlex : lex (.char ')' :: rest) = .token (.closing .list) rest := lex_bracket rfl rest
    have hverdict := verdict_closing hlex ⟨items, (e, outer) :: more⟩
    cases e with
    | list => exact absurd rfl hr
    | block => exact hverdict
  · have hlex : lex (.char ']' :: rest) = .refused := lex_of_endsWord (by decide) rfl rest
    exact verdict_refused (by simp [StopsAt]; decide) (by simp) hlex _
  · have hlex : lex (.char '\x7d' :: rest) = .token (.closing .block) rest := lex_bracket rfl rest
    have hverdict := verdict_closing hlex ⟨items, (e, outer) :: more⟩
    cases e with
    | list => exact hverdict
    | block => exact absurd rfl hr

/-- Skipping white space leaves what stands behind it. -/
theorem skipBlanks_spec (i : Input) :
    ∃ blanks, i.rest = blanks ++ i.skipBlanks.rest ∧ (∀ r ∈ blanks, r.isBlank = true) ∧
      StopsAt Rune.isBlank i.skipBlanks.rest :=
  ⟨i.rest.takeWhile Rune.isBlank, List.takeWhile_append_dropWhile.symm,
    fun _ hr => List.mem_takeWhile_imp hr, stopsAt_dropWhile _ _⟩

/-- White space in front of the items of a bracket is skipped. -/
theorem ItemsAgree.skip {e : Enclosure} {result : Reading (List Value)} {blanks front : List Rune}
    (h : ItemsAgree e result front) (hblanks : ∀ r ∈ blanks, r.isBlank = true)
    (hfront : StopsAt Rune.isBlank front) : ItemsAgree e result (blanks ++ front) := by
  unfold ItemsAgree at h ⊢
  cases hview : view result with
  | error incomplete =>
    rw [hview] at h
    intro items outer more
    rw [verdict_append hblanks hfront]
    exact h items outer more
  | ok parts =>
    rw [hview] at h
    refine ⟨?_, fun items outer more => ?_⟩
    · rw [List.length_append]
      exact Nat.lt_add_left _ h.1
    · rw [verdict_append hblanks hfront]
      exact h.2 items outer more

/-- The items of a bracket are read as the machine settles them. -/
theorem itemsFrom_agree {item : Input → Reading Value} {depth : Nat}
    (hitem : ∀ i : Input, i.rest.length < depth → BeginsForm i.rest → Agrees (item i) i.rest)
    (e : Enclosure) (opened : Position) (fuel : Nat) (i : Input) (hfuel : i.rest.length < fuel)
    (hdepth : i.rest.length < depth) :
    ItemsAgree e (itemsFrom item e.bracket opened fuel i) i.rest := by
  induction fuel generalizing i with
  | zero => omega
  | succ fuel ih =>
    obtain ⟨blanks, hi, hblanks, hfront⟩ := skipBlanks_spec i
    have hlength : i.skipBlanks.rest.length ≤ i.rest.length := by
      rw [hi, List.length_append]
      omega
    rw [itemsFrom, hi]
    refine ItemsAgree.skip ?_ hblanks hfront
    cases hrest : i.skipBlanks.rest with
    | nil =>
      intro items outer more
      rw [verdict_of_blank no_blanks]
      rfl
    | cons r rest =>
      rw [hrest] at hfront hlength
      simp only
      split_ifs with hclosing hcloser
      · have hlex : lex (r :: rest) = .token (.closing e) rest := by
          rw [Rune.isChar_iff.mp hclosing]
          exact lex_bracket (bracket?_eq_some_iff.mpr ⟨e, Or.inr ⟨rfl, rfl⟩⟩) rest
        have hbehind : i.skipBlanks.advance.rest = rest := by simp [Input.advance, hrest]
        simp only [ItemsAgree, view, hbehind]
        refine ⟨by simp, fun items outer more => ?_⟩
        rw [verdict_closing hlex]
        simp [Nesting.leave?]
      · exact verdict_wrong_closer hcloser (by simpa using hclosing) rest
      · have hbegins : BeginsForm i.skipBlanks.rest := by
          refine ⟨r, rest, hrest, hfront r (by simp), ?_, ?_⟩ <;>
            (rintro rfl; exact hcloser (by decide))
        have hagrees := hitem i.skipBlanks (by rw [hrest]; omega) hbegins
        rw [hrest] at hagrees
        cases hresult : item i.skipBlanks with
        | error err =>
          rw [hresult] at hagrees
          intro items outer more
          exact hagrees _
        | ok result =>
          obtain ⟨v, behind⟩ := result
          rw [hresult] at hagrees
          obtain ⟨hshorter, hpush⟩ := hagrees
          have hmore := ih behind (by omega) (by omega)
          simp only
          cases hitems : itemsFrom item e.bracket opened fuel behind with
          | error err =>
            rw [hitems] at hmore
            intro items outer more
            rw [hpush]
            exact hmore (items ++ [v]) outer more
          | ok result =>
            obtain ⟨vs, last⟩ := result
            rw [hitems] at hmore
            obtain ⟨hshorter', hclose⟩ := hmore
            refine ⟨hshorter'.trans hshorter, fun items outer more => ?_⟩
            rw [hpush, Nesting.push, hclose]
            simp

/-- A bracketed form is read as the machine settles it. -/
theorem agrees_enclose {e : Enclosure} {items : Reading (List Value)} {rest rs : List Rune}
    {head : List Value} (hitems : ItemsAgree e items rest) (hlength : rest.length < rs.length)
    (henter : ∀ st, verdict st rs = verdict (st.enter e head) rest) :
    Agrees (enclose head items) rs := by
  cases items with
  | error err =>
    refine .of_error rfl fun st => ?_
    rw [henter]
    exact hitems head st.items st.enclosing
  | ok read =>
    obtain ⟨vs, behind⟩ := read
    obtain ⟨hshorter, hclose⟩ := hitems
    refine .of_ok rfl (hshorter.trans hlength) fun st => ?_
    rw [henter, Nesting.enter, hclose]
    rfl

/-- A bracket is read as the machine settles it. -/
theorem sequence_agree {item : Input → Reading Value} {depth : Nat} {i : Input} {e : Enclosure}
    {rest : List Rune}
    (hagrees : ∀ i : Input, i.rest.length < depth → BeginsForm i.rest → Agrees (item i) i.rest)
    (hdepth : i.rest.length < depth + 1) (hi : i.rest = .char e.bracket.opening :: rest) :
    ItemsAgree e (sequence item e.bracket i) rest := by
  obtain ⟨place, hsequence⟩ := sequence_applies hi item
  rw [hi, List.length_cons] at hdepth
  rw [hsequence]
  exact itemsFrom_agree hagrees e i.place _ ⟨place, rest⟩ (by simp) (by simpa using hdepth)

/-- A form is read as the machine settles it. -/
theorem formWithin_agrees (depth : Nat) (i : Input) (hdepth : i.rest.length < depth)
    (hform : BeginsForm i.rest) : Agrees (formWithin depth i) i.rest := by
  induction depth generalizing i with
  | zero => omega
  | succ depth ih =>
    obtain ⟨r, rest, hi, hblank, hround, hbrace⟩ := hform
    have hfront : StopsAt Rune.isBlank i.rest := by simpa [hi, StopsAt] using hblank
    have hne : i.rest ≠ [] := by simp [hi]
    have hfinal := not_declines_formWithin depth
    rw [formWithin]
    cases hlex : lex i.rest with
    | refused => exact .of_error (view_firstOf_refused hne hlex) (verdict_refused hfront hne hlex)
    | unterminated =>
      exact .of_error (view_firstOf_unterminated hlex) (verdict_unterminated hfront hlex)
    | token t behind =>
      have hshorter := length_lt_of_lex hlex
      rcases token_cases t behind with ⟨v, hvalue, hcall⟩ | ⟨name, rest, rfl, rfl⟩ | ⟨e, rfl⟩ |
        ⟨e, rfl⟩
      · exact .of_ok (view_firstOf_leaf hlex hvalue hcall) hshorter (verdict_leaf hlex hvalue hcall)
      · obtain ⟨place, hfirst⟩ := firstOf_call hfinal hlex
        rw [List.length_cons] at hshorter
        rw [hfirst]
        exact agrees_enclose (sequence_agree (i := ⟨place, .char '(' :: rest⟩) (e := .list) ih
          (by simpa using by omega) rfl) (by omega) (verdict_call hlex)
      · obtain ⟨hopening, hfirst⟩ := firstOf_opening hfinal hlex
        rw [hfirst]
        exact agrees_enclose (sequence_agree ih hdepth hopening) hshorter (verdict_opening hlex)
      · obtain ⟨written, heq, htoken⟩ := isToken_of_lex hlex
        cases htoken with
        | closing =>
          obtain ⟨rfl, -⟩ : r = .char e.bracket.closing ∧ _ := by simpa [hi] using heq
          cases e with
          | list => exact absurd rfl hround
          | block => exact absurd rfl hbrace

/-- Without white space in front there is nothing to skip. -/
theorem skipBlanks_eq_self {i : Input} (h : StopsAt Rune.isBlank i.rest) : i.skipBlanks = i := by
  have hnone : i.rest.takeWhile Rune.isBlank = [] := takeWhile_append_of_stopsAt no_blanks h
  have hall : i.rest.dropWhile Rune.isBlank = i.rest := dropWhile_append_of_stopsAt no_blanks h
  simp only [Input.skipBlanks, Input.span, hnone, hall]
  rfl

/-- Where no bracket is open, none can be closed. -/
theorem verdict_closer {e : Enclosure} (rest : List Rune) (items : List Value) :
    verdict ⟨items, []⟩ (.char e.bracket.closing :: rest) = .refused := by
  have hlex : lex (.char e.bracket.closing :: rest) = .token (.closing e) rest :=
    lex_bracket (bracket?_eq_some_iff.mpr ⟨e, Or.inr ⟨rfl, rfl⟩⟩) rest
  rw [verdict_closing hlex]
  rfl

/-- An expression outside of all brackets is read as the machine settles it. -/
theorem expression_agrees {i : Input} {r : Rune} {rest : List Rune} (hi : i.rest = r :: rest)
    (hblank : r.isBlank = false) (items : List Value) :
    match expression i with
    | .ok (v, behind) => behind.rest.length < i.rest.length ∧
      verdict ⟨items, []⟩ i.rest = verdict ⟨items ++ [v], []⟩ behind.rest
    | .error e => verdict ⟨items, []⟩ i.rest = failed e.incomplete := by
  have hfront : StopsAt Rune.isBlank i.rest := by simpa [hi, StopsAt] using hblank
  rw [expression, skipBlanks_eq_self hfront]
  simp only [hi, Rune.isChar_iff]
  split_ifs with hround hbrace
  · rw [hround]
    exact verdict_closer (e := .list) rest items
  · rw [hbrace]
    exact verdict_closer (e := .block) rest items
  · have hagrees := formWithin_agrees (i.rest.length + 1) i (by omega)
      ⟨r, rest, hi, hblank, hround, hbrace⟩
    rw [← hi, form]
    cases hform : formWithin (i.rest.length + 1) i with
    | error e =>
      rw [hform] at hagrees
      exact hagrees ⟨items, []⟩
    | ok read =>
      rw [hform] at hagrees
      exact ⟨hagrees.1, hagrees.2 ⟨items, []⟩⟩

/-- The expressions of a source are read as the machine settles them. -/
theorem expressionsFrom_agree (fuel : Nat) (i : Input) (hfuel : i.rest.length ≤ fuel)
    (items : List Value) :
    verdict ⟨items, []⟩ i.rest =
      match (expressionsFrom fuel i).error with
      | none => .forms (items ++ (expressionsFrom fuel i).forms)
      | some e => failed e.incomplete := by
  induction fuel generalizing i items with
  | zero =>
    have hnil : i.rest = [] := List.eq_nil_of_length_eq_zero (by omega)
    rw [hnil, verdict_of_blank no_blanks]
    simp [expressionsFrom, Nesting.finish]
  | succ fuel ih =>
    obtain ⟨blanks, hi, hblanks, hfront⟩ := skipBlanks_spec i
    have hverdict : verdict ⟨items, []⟩ i.rest = verdict ⟨items, []⟩ i.skipBlanks.rest := by
      rw [hi, verdict_append hblanks hfront]
    have hlength : i.skipBlanks.rest.length ≤ i.rest.length := by
      rw [hi, List.length_append]
      omega
    rw [hverdict, expressionsFrom]
    cases hrest : i.skipBlanks.rest with
    | nil =>
      rw [verdict_of_blank no_blanks]
      simp [Input.atEnd, hrest, Nesting.finish]
    | cons r rest =>
      have hagrees := expression_agrees hrest (hfront r (by simp [hrest])) items
      have hnot : ¬ i.skipBlanks.atEnd = true := by simp [Input.atEnd, hrest]
      simp only [if_neg hnot]
      cases hexpression : expression i.skipBlanks with
      | error e =>
        rw [hexpression, hrest] at hagrees
        exact hagrees
      | ok read =>
        obtain ⟨v, behind⟩ := read
        rw [hexpression] at hagrees
        obtain ⟨hshorter, hpush⟩ := hagrees
        rw [← hrest, hpush, ih behind (by omega) (items ++ [v])]
        cases (expressionsFrom fuel behind).error <;> simp

/-- What is read from a source is told by the verdict of the machine. -/
theorem verdict_runes (source : Text) :
    verdict .empty source.runes =
      match parseAll source with
      | .ok forms => .forms forms
      | .error e => failed e.incomplete := by
  have hagree := expressionsFrom_agree source.runes.length ⟨.start, source.runes⟩ le_rfl []
  have hinput : Reader.new.input source = ⟨.start, source.runes⟩ := rfl
  rw [Nesting.empty, hagree]
  simp only [parseAll, parseForms, readAll, expressions, hinput]
  cases (expressionsFrom source.runes.length ⟨.start, source.runes⟩).error <;> rfl

/-- A source is read as the forms that the machine ends with. -/
theorem parseAll_eq_ok_iff_verdict {source : Text} {forms : List Value} :
    parseAll source = .ok forms ↔ verdict .empty source.runes = .forms forms := by
  rw [verdict_runes]
  cases parseAll source with
  | ok forms' => simp
  | error e => cases he : e.incomplete <;> simp [failed, he]

end Lisplet.Reader
