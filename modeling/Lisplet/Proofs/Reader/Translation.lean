import Lisplet.Proofs.Reader.Continuation
import Lisplet.Proofs.Reader.Place
import Mathlib.Data.List.Forall2

/-!
# A source as a part of another

A source can stand behind whole lines of another one and in front of white space. There its forms
are read as on their own, and only the places move: by the bytes and the lines in front. An error
moves with them if nothing follows the source. Therefore a source that is cut at a line break,
behind a part that can be read, is read part by part.
-/

namespace Lisplet

/-- The place behind some more bytes and lines. -/
def Position.moved (p : Position) (bytes lines : Nat) : Position :=
  ⟨p.offset + bytes, p.line + lines, p.column⟩

/-- A place may be moved before or after a rune is passed. -/
theorem Position.moved_after (p : Position) (bytes lines : Nat) (r : Rune) :
    (p.moved bytes lines).after r = (p.after r).moved bytes lines := by
  rw [after, after]
  split
  · simp only [moved, Position.mk.injEq, and_true]
    omega
  · simp only [moved, Position.mk.injEq, and_true]
    omega

/-- The same for several runes. -/
theorem Position.moved_afterAll (p : Position) (bytes lines : Nat) (rs : List Rune) :
    (p.moved bytes lines).afterAll rs = (p.afterAll rs).moved bytes lines := by
  induction rs generalizing p with
  | nil => rfl
  | cons r rs ih =>
    have hstep : ∀ q : Position, q.afterAll (r :: rs) = (q.after r).afterAll rs := fun _ => rfl
    rw [hstep, hstep, moved_after, ih]

/-- The place behind a source and a line break. -/
theorem Position.after_newline (source : Text) :
    (start.afterAll source.runes).after (.char '\n') =
      start.moved (source.length + 1) (source.count Text.newline + 1) := by
  have hwidth : Rune.width (.char '\n') = 1 := by decide
  rw [afterAll_start, Text.ofRunes_runes, ← Text.count_newline]
  simp only [after, Rune.isChar_iff, if_true, moved, start, hwidth, Position.mk.injEq, and_true]
  omega

/-- An error and the same error some bytes and lines further on. The notes may mention different
places. -/
structure ReadError.MovedTo (bytes lines : Nat) (e e' : ReadError) : Prop where
  /-- The same went wrong. -/
  kind_eq : e'.kind = e.kind
  /-- More input could mend both or neither. -/
  incomplete_eq : e'.incomplete = e.incomplete
  /-- The column is the same. -/
  column_eq : e'.column = e.column
  /-- The offset is larger by the bytes. -/
  offset_eq : e'.offset = e.offset + bytes
  /-- The line is larger by the lines. -/
  line_eq : e'.line = e.line + lines

/-- An error at a place moves with the place. -/
theorem ReadError.movedTo_located (kind : ReadErrorKind) (p : Position) (bytes lines : Nat)
    (note note' : Text) :
    (located kind p note).MovedTo bytes lines (located kind (p.moved bytes lines) note') :=
  ⟨rfl, rfl, rfl, by simp [located, Position.moved], by simp [located, Position.moved]⟩

/-- So does the error for an input that ended too early. -/
theorem ReadError.movedTo_ranOut (kind : ReadErrorKind) (p : Position) (bytes lines : Nat) :
    (ranOut kind p).MovedTo bytes lines (ranOut kind (p.moved bytes lines)) :=
  ⟨rfl, rfl, rfl, by simp [ranOut, Position.moved], by simp [ranOut, Position.moved]⟩

namespace Reader

/-! ### Contexts -/

/-- What stands around a source: whole lines in front of it, and runes behind it that begin with
white space. -/
structure Context where
  /-- The number of bytes in front. -/
  bytes : Nat
  /-- The number of lines in front. -/
  lines : Nat
  /-- The runes behind. -/
  behind : List Rune
  /-- White space separates the runes behind from the source. -/
  separated : ∀ r ∈ behind.head?, r.isBlank = true

/-- What is left of a source, as a part of the source around it. -/
def Context.around (c : Context) (i : Input) : Input :=
  ⟨i.place.moved c.bytes c.lines, i.rest ++ c.behind⟩

/-- What a reader gives back in a context. A result is the same, and so is an error if nothing
stands behind. That a reader does not apply remains so in every context. -/
def Follows {α : Type} (c : Context) : Reading α → Reading α → Prop
  | .ok (v, behind), result => result = .ok (v, c.around behind)
  | .error e, result => c.behind = [] ∨ e.kind.fallsThrough = true →
    ∃ e', result = .error e' ∧ e.MovedTo c.bytes c.lines e'

variable (c : Context)

/-- Runes of a kind to which no white space belongs stop at the end of the source. -/
theorem Context.stopsAt {p : Rune → Bool} (hp : ∀ r, r.isBlank = true → p r = false) :
    StopsAt p c.behind :=
  fun r hr => hp r (c.separated r hr)

/-- Words stop at the end of the source. -/
theorem Context.stopsAt_boundary : StopsAt (fun r => !isBoundary r) c.behind :=
  c.stopsAt fun r hr => by simp [isBoundary, hr]

/-- Numerals stop at the end of the source. -/
theorem Context.stopsAt_numeral : StopsAt isNumeralRune c.behind :=
  c.stopsAt fun r hr => by
    by_contra hnumeral
    have hword := endsWord_of_isNumeralRune (Bool.eq_true_of_not_eq_false hnumeral)
    simp [endsWord, hr] at hword

/-- A run stops in a context as it does on its own. -/
theorem Context.span_around {p : Rune → Bool} {i : Input}
    (h : i.rest.dropWhile p = [] → StopsAt p c.behind) :
    (c.around i).span p = ((i.span p).1, c.around (i.span p).2) := by
  have hstop : StopsAt p (i.rest.dropWhile p ++ c.behind) :=
    (stopsAt_dropWhile p i.rest).append_of h
  have hrun : ∀ r ∈ i.rest.takeWhile p, p r = true := fun r hr => List.mem_takeWhile_imp hr
  have hsplit : i.rest ++ c.behind =
      i.rest.takeWhile p ++ (i.rest.dropWhile p ++ c.behind) := by
    rw [← List.append_assoc, List.takeWhile_append_dropWhile]
  simp only [Input.span, around, hsplit, takeWhile_append_of_stopsAt hrun hstop,
    dropWhile_append_of_stopsAt hrun hstop, Position.moved_afterAll]

/-- White space in front is skipped as on its own, unless there is nothing else. -/
theorem Context.skipBlanks_around {i : Input} (h : i.skipBlanks.rest = [] → c.behind = []) :
    (c.around i).skipBlanks = c.around i.skipBlanks := by
  have hspan := c.span_around (p := Rune.isBlank) (i := i) fun hnil => by
    rw [h hnil]
    simp [StopsAt]
  rw [Input.skipBlanks, hspan]
  rfl

/-- What follows the source is white space, so a character of another kind is seen in the source
only. -/
theorem Context.looksAt_around {i : Input} {x : Char} (hx : (Rune.char x).isBlank = false) :
    (c.around i).looksAt x = i.looksAt x := by
  rw [Bool.eq_iff_iff, looksAt_eq_true_iff, looksAt_eq_true_iff]
  cases hrest : i.rest with
  | cons r rest => simp [around, hrest]
  | nil =>
    simp only [around, hrest, List.nil_append, List.head?_nil, reduceCtorEq, iff_false]
    intro hhead
    rw [c.separated _ hhead] at hx
    cases hx

/-- Before its end, the source is passed in the context as it is alone. -/
theorem Context.advance_around {i : Input} (h : i.rest ≠ []) :
    (c.around i).advance = c.around i.advance := by
  obtain ⟨r, rest, hrest⟩ := List.exists_cons_of_ne_nil h
  simp [Input.advance, around, hrest, Position.moved_after]

/-! ### Readers of tokens in a context -/

variable {c}

/-- A reader that gives up at a place does so at the same place in the context. -/
theorem follows_declined {α : Type} (kind : ReadErrorKind) (i : Input) (note note' : Text) :
    Follows c (.error (.located kind i.place note) : Reading α)
      (.error (.located kind (c.around i).place note')) :=
  fun _ => ⟨_, rfl, ReadError.movedTo_located kind i.place c.bytes c.lines note note'⟩

/-- A number ends in front of white space. -/
theorem numeral?_around (rs : List Rune) : numeral? (rs ++ c.behind) = numeral? rs := by
  cases hnumeral : numeral? rs with
  | some written =>
    obtain ⟨behind, rfl, hbegins, hrun, hstop⟩ := numeral?_eq_some_iff.mp hnumeral
    refine numeral?_eq_some_iff.mpr ⟨behind ++ c.behind, List.append_assoc _ _ _, hbegins, hrun, ?_⟩
    exact hstop.append_of fun _ => c.stopsAt_numeral
  | none =>
    rw [numeral?_eq_none_iff] at hnumeral ⊢
    exact fun hbegins => hnumeral (hbegins.of_append c.stopsAt_boundary)

/-- The reader of numbers. -/
theorem number_follows (i : Input) : Follows c (number i) (number (c.around i)) := by
  have hsame : numeral? (c.around i).rest = numeral? i.rest := numeral?_around i.rest
  rw [number, number, hsame]
  cases hnumeral : numeral? i.rest with
  | none => exact follows_declined _ i _ _
  | some written =>
    simp only
    split_ifs
    · exact follows_declined _ i _ _
    · exact follows_declined _ i _ _
    · obtain ⟨behind, hrest, -⟩ := numeral?_eq_some_iff.mp hnumeral
      simp [Follows, Context.around, hrest, Position.moved_afterAll]

/-- Without the letter of a truth value behind a hash sign there is none. -/
theorem boolean_of_truth?_eq_none {i : Input}
    (h : ∀ letter rest, i.rest = .char '#' :: letter :: rest → truth? letter = none) :
    boolean i = .error (.located .notABoolean i.place []) := by
  unfold boolean
  split
  · rename_i hash letter rest hrest
    have hnone : (if hash.isChar '#' then truth? letter else none) = none := by
      split_ifs with hhash
      · exact h letter rest (by rw [hrest, Rune.isChar_iff.mp hhash])
      · rfl
    rw [hnone]
  · rfl

/-- White space is no letter of a truth value. -/
theorem truth?_of_isBlank {letter : Rune} (h : letter.isBlank = true) : truth? letter = none := by
  cases htruth : truth? letter with
  | none => rfl
  | some b =>
    have hspelling := truthSpellings_spec b _ (truth?_eq_some_iff.mp htruth)
    have hword := hspelling.2.1 letter (by simp)
    simp [endsWord, h] at hword

/-- The reader of truth values. -/
theorem boolean_follows (i : Input) : Follows c (boolean i) (boolean (c.around i)) := by
  by_cases hlong : ∃ hash letter rest, i.rest = hash :: letter :: rest
  · obtain ⟨hash, letter, rest, hrest⟩ := hlong
    have haround : (c.around i).rest = hash :: letter :: (rest ++ c.behind) := by
      simp [Context.around, hrest]
    have hboundary : (rest ++ c.behind).head?.all isBoundary = rest.head?.all isBoundary := by
      cases rest with
      | cons r rest => rfl
      | nil =>
        rw [List.nil_append, List.head?_nil, Option.all_none, Option.all_eq_true]
        intro r hr
        simp [isBoundary, c.separated r hr]
    simp only [boolean, hrest, haround, hboundary]
    cases hletter : if hash.isChar '#' then truth? letter else none with
    | none => exact follows_declined _ i _ _
    | some b =>
      simp only
      split_ifs
      · simp [Follows, Context.around, Position.moved_after]
      · exact follows_declined _ i _ _
  · have hnone : boolean i = .error (.located .notABoolean i.place []) :=
      boolean_of_truth?_eq_none fun letter rest heq => absurd ⟨_, letter, rest, heq⟩ hlong
    have haround : boolean (c.around i) = .error (.located .notABoolean (c.around i).place []) := by
      refine boolean_of_truth?_eq_none fun letter rest heq => ?_
      -- One of the two runes is the white space behind the source.
      rcases hrest : i.rest with _ | ⟨hash, _ | ⟨next, more⟩⟩
      · have hhash : (Rune.char '#').isBlank = true := c.separated _ (by
          simp only [Context.around, hrest, List.nil_append] at heq
          simp [heq])
        exact absurd hhash (by decide)
      · obtain ⟨-, hbehind⟩ : hash = .char '#' ∧ c.behind = letter :: rest := by
          simpa [Context.around, hrest] using heq
        exact truth?_of_isBlank (c.separated letter (by simp [hbehind]))
      · exact absurd ⟨hash, next, more, hrest⟩ hlong
    rw [hnone, haround]
    exact follows_declined _ i _ _

/-- The reader of strings. -/
theorem string_follows (i : Input) : Follows c (string i) (string (c.around i)) := by
  have hlooks : (c.around i).looksAt '"' = i.looksAt '"' := c.looksAt_around (by decide)
  rw [string, string, hlooks]
  by_cases hquote : i.looksAt '"' = true
  · rw [if_pos hquote, if_pos hquote, c.advance_around (Input.rest_ne_nil hquote)]
    by_cases hend : i.advance.rest.dropWhile (fun r => !r.isChar '"') = []
    · -- Without a second quote, what stands behind would be taken into the string.
      have hatEnd : (i.advance.span fun r => !r.isChar '"').2.atEnd = true := by
        simp [Input.span, Input.atEnd, hend]
      simp only [hatEnd, if_true]
      rintro (hnothing | hfalls)
      · have hspan := c.span_around (p := fun r => !r.isChar '"') (i := i.advance) fun _ => by
          simp [hnothing, StopsAt]
        have hatEnd' : (c.around (i.advance.span fun r => !r.isChar '"').2).atEnd = true := by
          simpa [Input.atEnd, Context.around, hnothing] using hatEnd
        simp only [hspan, hatEnd', if_true]
        exact ⟨_, rfl, ReadError.movedTo_ranOut _ i.place c.bytes c.lines⟩
      · cases hfalls
    · have hspan := c.span_around (p := fun r => !r.isChar '"') (i := i.advance)
        fun hnil => absurd hnil hend
      have hrest : (i.advance.span fun r => !r.isChar '"').2.rest ≠ [] := hend
      have hatEnd : (i.advance.span fun r => !r.isChar '"').2.atEnd = false := by
        simpa [Input.atEnd] using hrest
      have hatEnd' : (c.around (i.advance.span fun r => !r.isChar '"').2).atEnd = false := by
        simp [Input.atEnd, Context.around, hrest]
      simp only [hspan, hatEnd, hatEnd', c.advance_around hrest]
      rfl
  · rw [if_neg hquote, if_neg hquote]
    exact follows_declined _ i _ _

/-- The reader of symbols. -/
theorem symbol_follows (i : Input) : Follows c (symbol i) (symbol (c.around i)) := by
  have hspan := c.span_around (p := fun r => !isBoundary r) (i := i) fun _ => c.stopsAt_boundary
  rw [symbol, symbol, hspan]
  simp only
  split_ifs
  · exact follows_declined _ i _ _
  · rfl

/-- Where no symbol begins, none begins in a context. -/
theorem symbol_error_around {i : Input} {e : ReadError} (h : symbol i = .error e) :
    ∃ e', symbol (c.around i) = .error e' := by
  have hspan := c.span_around (p := fun r => !isBoundary r) (i := i) fun _ => c.stopsAt_boundary
  rw [symbol] at h
  rw [symbol, hspan]
  simp only at h ⊢
  split_ifs at h ⊢
  exact ⟨_, rfl⟩

/-! ### Readers of bracketed forms in a context -/

section Bracketed

variable {item item' : Input → Reading Value}
  (hitem : ∀ i, Follows c (item i) (item' (c.around i)))
include hitem

/-- The items of a bracket are read in a context as on their own. There is more fuel by the runes
behind. -/
theorem itemsFrom_follows (e : Enclosure) (opened : Position) (fuel : Nat) (i : Input) :
    Follows c (itemsFrom item e.bracket opened fuel i)
      (itemsFrom item' e.bracket (opened.moved c.bytes c.lines) (fuel + c.behind.length)
        (c.around i)) := by
  have hfinal : e.bracket.unbalanced.fallsThrough = false := by cases e <;> rfl
  induction fuel generalizing i with
  | zero =>
    rintro (hnothing | hfalls)
    · rw [hnothing, List.length_nil]
      exact ⟨_, rfl, ReadError.movedTo_ranOut _ opened c.bytes c.lines⟩
    · exact absurd hfalls (by simp [ReadError.ranOut, hfinal])
  | succ fuel ih =>
    rw [itemsFrom, Nat.add_right_comm, itemsFrom]
    cases hrest : i.skipBlanks.rest with
    | nil =>
      rintro (hnothing | hfalls)
      · rw [c.skipBlanks_around fun _ => hnothing]
        simp only [Context.around, hrest, hnothing, List.append_nil]
        exact ⟨_, rfl, ReadError.movedTo_ranOut _ opened c.bytes c.lines⟩
      · exact absurd hfalls (by simp [ReadError.ranOut, hfinal])
    | cons r rest =>
      have hne : i.skipBlanks.rest ≠ [] := by simp [hrest]
      have hfront := c.skipBlanks_around fun hnil => absurd hnil hne
      have haround : (c.around i.skipBlanks).rest = r :: (rest ++ c.behind) := by
        simp [Context.around, hrest]
      simp only [hfront, haround]
      split_ifs
      · exact congrArg (fun j => Except.ok ([], j)) (c.advance_around hne)
      · exact fun _ => ⟨_, rfl, ReadError.movedTo_located _ opened c.bytes c.lines _ _⟩
      · have hfollows := hitem i.skipBlanks
        cases hresult : item i.skipBlanks with
        | error err =>
          rw [hresult] at hfollows
          intro hcase
          obtain ⟨err', hresult', hmoved⟩ := hfollows hcase
          exact ⟨err', by simp [hresult'], hmoved⟩
        | ok read =>
          obtain ⟨v, behind⟩ := read
          rw [hresult] at hfollows
          have hmore := ih behind
          simp only [show item' (c.around i.skipBlanks) = .ok (v, c.around behind) from hfollows]
          cases hitems : itemsFrom item e.bracket opened fuel behind with
          | error err =>
            rw [hitems] at hmore
            intro hcase
            obtain ⟨err', hitems', hmoved⟩ := hmore hcase
            exact ⟨err', by simp [hitems'], hmoved⟩
          | ok read =>
            obtain ⟨vs, last⟩ := read
            rw [hitems] at hmore
            simp only [show itemsFrom item' e.bracket _ _ (c.around behind) =
              .ok (vs, c.around last) from hmore]
            rfl

/-- The reader of a bracket follows if that of its items does. -/
theorem sequence_follows (e : Enclosure) (i : Input) :
    Follows c (sequence item e.bracket i) (sequence item' e.bracket (c.around i)) := by
  have hlooks : (c.around i).looksAt e.bracket.opening = i.looksAt e.bracket.opening :=
    c.looksAt_around (by cases e <;> decide)
  rw [sequence, sequence, hlooks]
  by_cases hopening : i.looksAt e.bracket.opening = true
  · have hfuel : (c.around i).rest.length = i.rest.length + c.behind.length :=
      List.length_append
    rw [if_pos hopening, if_pos hopening, hfuel, c.advance_around (Input.rest_ne_nil hopening)]
    exact itemsFrom_follows hitem e i.place i.rest.length i.advance
  · rw [if_neg hopening, if_neg hopening]
    exact follows_declined _ i _ _

omit hitem in
/-- Making a list of items does not depend on the context. -/
theorem enclose_follows {items items' : Reading (List Value)} (h : Follows c items items')
    (head : List Value) : Follows c (enclose head items) (enclose head items') := by
  cases items with
  | error e =>
    intro hcase
    obtain ⟨e', rfl, hmoved⟩ := h hcase
    exact ⟨e', rfl, hmoved⟩
  | ok read =>
    obtain rfl := h
    rfl

/-- The reader of calls. -/
theorem call_follows (i : Input) : Follows c (call item i) (call item' (c.around i)) := by
  have hdeclined : Follows c (.error (.located .notAFunctionCall i.place []) : Reading Value)
      (.error (.located .notAFunctionCall (c.around i).place [])) := follows_declined _ i _ _
  have hsymbol := symbol_follows (c := c) i
  cases hresult : symbol i with
  | error e =>
    obtain ⟨e', hresult'⟩ := symbol_error_around (c := c) hresult
    simp only [call, hresult, hresult']
    exact hdeclined
  | ok read =>
    obtain ⟨name, behind⟩ := read
    rw [hresult] at hsymbol
    have hlooks : (c.around behind).looksAt '(' = behind.looksAt '(' :=
      c.looksAt_around (by decide)
    by_cases hopening : behind.looksAt '(' = true
    · rw [call_eq_enclose hresult (looksAt_eq_true_iff.mp hopening),
        call_eq_enclose hsymbol (looksAt_eq_true_iff.mp (hlooks.trans hopening))]
      exact enclose_follows (sequence_follows hitem .list behind) _
    · simp only [call, hresult, show symbol (c.around i) = .ok (name, c.around behind) from hsymbol,
        hlooks, if_neg hopening]
      exact hdeclined

/-- All readers of forms follow, one by one. -/
theorem productions_follow (i : Input) :
    List.Forall₂ (fun f g => Follows c (f i) (g (c.around i))) (productions item)
      (productions item') := by
  have hlist : Follows c (list item i) (list item' (c.around i)) := by
    rw [list_eq_enclose, list_eq_enclose]
    exact enclose_follows (sequence_follows hitem .list i) _
  have hblock : Follows c (block item i) (block item' (c.around i)) := by
    rw [block_eq_enclose, block_eq_enclose]
    exact enclose_follows (sequence_follows hitem .block i) _
  exact .cons (number_follows i) <| .cons (boolean_follows i) <| .cons (string_follows i) <|
    .cons hlist <| .cons hblock <| .cons (call_follows hitem i) <| .cons (symbol_follows i) .nil

end Bracketed

/-- The reader that applies in a context is the one that applies on its own. -/
theorem firstOf_follows {i : Input} {ps qs : List (Input → Reading Value)}
    (h : List.Forall₂ (fun f g => Follows c (f i) (g (c.around i))) ps qs) :
    Follows c (firstOf i ps) (firstOf (c.around i) qs) := by
  induction h with
  | nil => exact follows_declined _ i _ _
  | @cons f g ps qs hfirst _ ih =>
    cases hresult : f i with
    | ok read =>
      rw [hresult] at hfirst
      simp only [firstOf, hresult, show g (c.around i) = .ok (read.1, c.around read.2) from hfirst]
      rfl
    | error e =>
      rw [hresult] at hfirst
      cases hfalls : e.kind.fallsThrough with
      | true =>
        obtain ⟨e', hresult', hmoved⟩ := hfirst (Or.inr hfalls)
        have hfalls' : e'.kind.fallsThrough = true := by rw [hmoved.kind_eq, hfalls]
        simp only [firstOf, hresult, hresult', hfalls, hfalls', if_true]
        exact ih
      | false =>
        simp only [firstOf, hresult, hfalls, Bool.false_eq_true, if_false]
        intro hcase
        obtain ⟨e', hresult', hmoved⟩ := hfirst hcase
        have hfalls' : e'.kind.fallsThrough = false := by rw [hmoved.kind_eq, hfalls]
        exact ⟨e', by simp [hresult', hfalls'], hmoved⟩

/-- The reader of forms follows with room for the runes behind. -/
theorem formWithin_follows (depth : Nat) (i : Input) :
    Follows c (formWithin depth i) (formWithin (depth + c.behind.length) (c.around i)) := by
  induction depth generalizing i with
  | zero =>
    rintro (hnothing | hfalls)
    · rw [hnothing]
      exact firstOf_follows .nil (Or.inl hnothing)
    · cases hfalls
  | succ depth ih =>
    rw [Nat.add_right_comm]
    exact firstOf_follows (productions_follow ih i)

/-- The reader of expressions follows. -/
theorem expression_follows (i : Input) : Follows c (expression i) (expression (c.around i)) := by
  rw [expression, expression]
  cases hrest : i.skipBlanks.rest with
  | nil =>
    rintro (hnothing | hfalls)
    · rw [c.skipBlanks_around fun _ => hnothing]
      simp only [Context.around, hrest, hnothing, List.append_nil]
      exact ⟨_, rfl, ReadError.movedTo_located _ _ _ _ _ _⟩
    · cases hfalls
  | cons r rest =>
    have hfront := c.skipBlanks_around (i := i) fun hnil => absurd hnil (by simp [hrest])
    have haround : (c.around i.skipBlanks).rest = r :: (rest ++ c.behind) := by
      simp [Context.around, hrest]
    simp only [hfront, haround]
    split_ifs
    · exact follows_declined _ i.skipBlanks _ _
    · exact follows_declined _ i.skipBlanks _ _
    · have hdepth : (c.around i.skipBlanks).rest.length + 1 =
          i.skipBlanks.rest.length + 1 + c.behind.length := by
        simp only [Context.around, List.length_append]
        omega
      rw [form, form, hdepth]
      exact formWithin_follows _ i.skipBlanks

/-! ### All expressions in a context -/

/-- White space can be skipped in parts. -/
theorem skipBlanks_of_blanks {i j : Input} {blanks : List Rune} (hrest : i.rest = blanks ++ j.rest)
    (hplace : j.place = i.place.afterAll blanks) (hblanks : ∀ r ∈ blanks, r.isBlank = true) :
    i.skipBlanks = j.skipBlanks := by
  simp only [Input.skipBlanks, Input.span, hrest, hplace, List.takeWhile_append_of_pos hblanks,
    List.dropWhile_append_of_pos hblanks, Position.afterAll_append]

/-- What is read depends on what stands behind the white space in front only. -/
theorem expressions_congr {i j : Input} (h : i.skipBlanks = j.skipBlanks) :
    expressions i = expressions j := by
  have hexpression : expression i = expression j := by
    rw [← expression_skipBlanks, h, expression_skipBlanks]
  by_cases hnil : i.skipBlanks.rest = []
  · rw [expressions_of_atEnd hnil, h, ← expressions_of_atEnd (h ▸ hnil)]
  · cases hresult : expression i with
    | error e =>
      rw [expressions_of_error hnil hresult, h,
        ← expressions_of_error (h ▸ hnil) (hexpression ▸ hresult)]
    | ok read =>
      obtain ⟨v, behind⟩ := read
      rw [expressions_of_ok hresult, ← expressions_of_ok (hexpression ▸ hresult)]

/-- A source that can be read is read first, and then what stands behind it. -/
theorem expressions_around {i : Input} (h : (expressions i).error = none) :
    expressions (c.around i) =
      (expressions (c.around (expressions i).behind)).prepend (expressions i).forms := by
  induction i using expressions_induction with
  | atEnd i hnil =>
    have hrest : (c.around i).rest =
        i.rest.takeWhile Rune.isBlank ++ (c.around i.skipBlanks).rest := by
      simp only [Context.around, Input.skipBlanks, Input.span, ← List.append_assoc,
        List.takeWhile_append_dropWhile]
    have hplace : (c.around i.skipBlanks).place =
        (c.around i).place.afterAll (i.rest.takeWhile Rune.isBlank) :=
      (Position.moved_afterAll i.place c.bytes c.lines _).symm
    rw [expressions_of_atEnd hnil]
    exact expressions_congr
      (skipBlanks_of_blanks hrest hplace fun _ hr => List.mem_takeWhile_imp hr)
  | error i e hne herror =>
    rw [expressions_of_error hne herror] at h
    cases h
  | ok i v behind hok ih =>
    have hfollows := expression_follows (c := c) i
    rw [hok] at hfollows
    rw [expressions_of_ok hok] at h ⊢
    rw [expressions_of_ok hfollows, ih h]
    simp [Forms.prepend]

/-- If nothing stands behind a source, it is read with the same forms, and an error moves. -/
theorem expressions_moved (hnothing : c.behind = []) (i : Input) :
    (expressions (c.around i)).forms = (expressions i).forms ∧
      Option.Rel (ReadError.MovedTo c.bytes c.lines) (expressions i).error
        (expressions (c.around i)).error := by
  have hfront : ∀ i, (c.around i).skipBlanks.rest = i.skipBlanks.rest := by
    intro i
    rw [c.skipBlanks_around fun _ => hnothing, Context.around, hnothing, List.append_nil]
  induction i using expressions_induction with
  | atEnd i hnil =>
    rw [expressions_of_atEnd hnil, expressions_of_atEnd ((hfront i).trans hnil)]
    exact ⟨rfl, .none⟩
  | error i e hne herror =>
    have hfollows := expression_follows (c := c) i
    rw [herror] at hfollows
    obtain ⟨e', herror', hmoved⟩ := hfollows (Or.inl hnothing)
    have hne' : (c.around i).skipBlanks.rest ≠ [] := by rwa [hfront]
    rw [expressions_of_error hne herror, expressions_of_error hne' herror']
    exact ⟨rfl, .some hmoved⟩
  | ok i v behind hok ih =>
    have hfollows := expression_follows (c := c) i
    rw [hok] at hfollows
    rw [expressions_of_ok hok, expressions_of_ok hfollows]
    exact ⟨congrArg (v :: ·) ih.1, ih.2⟩

/-! ### Lines in front -/

/-- The input that a whole source is. -/
def whole (source : Text) : Input := ⟨.start, source.runes⟩

/-- The forms of a source are its expressions. -/
theorem parseForms_eq (source : Text) :
    parseForms source = ((expressions (whole source)).forms, (expressions (whole source)).error) :=
  rfl

/-- A source that can be read is read up to its end. -/
theorem behind_of_parseAll {source : Text} {vs : List Value} (h : parseAll source = .ok vs) :
    (expressions (whole source)).error = none ∧ (expressions (whole source)).forms = vs ∧
      (expressions (whole source)).behind = ⟨Position.start.afterAll source.runes, []⟩ := by
  rw [parseAll, parseForms_eq] at h
  cases herror : (expressions (whole source)).error with
  | some e => simp [herror] at h
  | none =>
    have hrest := rest_behind_expressions herror
    obtain ⟨⟨taken, htaken, hplace⟩, -⟩ := expressions_proceed (whole source)
    have hall : source.runes = taken := by
      rw [hrest, List.append_nil] at htaken
      exact htaken
    refine ⟨rfl, by simpa [herror] using h, ?_⟩
    rw [hall]
    generalize (expressions (whole source)).behind = behind at hrest hplace
    obtain ⟨place, rest⟩ := behind
    subst hrest hplace
    rfl

/-- A line break stands behind a source, and behind it another one. -/
def Context.beforeLine (next : Text) : Context where
  bytes := 0
  lines := 0
  behind := .char '\n' :: next.runes
  separated := by
    simp
    decide

/-- A source and a line break stand in front of another source. -/
def Context.behindLine (source : Text) : Context where
  bytes := source.length + 1
  lines := source.count Text.newline + 1
  behind := []
  separated := by simp

/-- A source in front of a line break, in terms of its context. -/
theorem whole_append_newline (source next : Text) :
    whole (source ++ Text.newline :: next) = (Context.beforeLine next).around (whole source) := by
  have hrunes : (source ++ Text.newline :: next).runes =
      source.runes ++ .char '\n' :: next.runes :=
    Text.runes_append_ascii source (by decide) next
  rw [whole, hrunes]
  rfl

/-- At the end of the first source, reading goes on with the second one behind the line break. -/
theorem expressions_beforeLine (source next : Text) :
    expressions ((Context.beforeLine next).around ⟨Position.start.afterAll source.runes, []⟩) =
      expressions ((Context.behindLine source).around (whole next)) := by
  have hrest : ((Context.beforeLine next).around ⟨Position.start.afterAll source.runes, []⟩).rest =
      [.char '\n'] ++ ((Context.behindLine source).around (whole next)).rest := by
    simp [Context.beforeLine, Context.behindLine, Context.around, whole]
  have hplace : ((Context.behindLine source).around (whole next)).place =
      ((Context.beforeLine next).around
        ⟨Position.start.afterAll source.runes, []⟩).place.afterAll [.char '\n'] :=
    (Position.after_newline source).symm
  exact expressions_congr (skipBlanks_of_blanks hrest hplace (by decide))

/-- Behind a source that can be read and a line break, another source is read as on its own. The
forms of the first come first. There is an error exactly if there is one in the second source alone,
and it is the same, as many bytes and lines further on as the first source and the line break
take. -/
theorem parseForms_append_newline {source : Text} {vs : List Value}
    (h : parseAll source = .ok vs) (next : Text) :
    (parseForms (source ++ Text.newline :: next)).1 = vs ++ (parseForms next).1 ∧
      Option.Rel (ReadError.MovedTo (source.length + 1) (source.count Text.newline + 1))
        (parseForms next).2 (parseForms (source ++ Text.newline :: next)).2 := by
  obtain ⟨herror, rfl, hbehind⟩ := behind_of_parseAll h
  obtain ⟨hforms, hmoved⟩ := expressions_moved (c := .behindLine source) rfl (whole next)
  rw [parseForms_eq, parseForms_eq, whole_append_newline, expressions_around herror, hbehind,
    expressions_beforeLine]
  exact ⟨congrArg (_ ++ ·) hforms, hmoved⟩

/-- Two lines that can be read stand in front of two lines with a list that is closed by a wrong
bracket. -/
theorem parseForms_append_newline_mismatch :
    parseAll (text "(a)\n#t") = .ok [.list [.sym (text "a")], .bool true] ∧
      (parseForms (text "(a)\n#t" ++ Text.newline :: text "b\n (c]")).1 =
        [.list [.sym (text "a")], .bool true, .sym (text "b")] ∧
      ∃ e e', (parseForms (text "b\n (c]")).2 = some e ∧ e.line = 2 ∧ e.column = 2 ∧
        (parseForms (text "(a)\n#t" ++ Text.newline :: text "b\n (c]")).2 = some e' ∧
        e'.line = 4 ∧ e'.column = 2 ∧ e'.offset = e.offset + 7 := by
  have hsource : parseAll (text "(a)\n#t") = .ok [.list [.sym (text "a")], .bool true] := rfl
  have hnext : parseForms (text "b\n (c]") = ([.sym (text "b")],
      some ⟨.unbalancedParenthesis, 3, 2, 2, mentioning (text "unexpected ']'") 2 4, false⟩) := rfl
  obtain ⟨hforms, hmoved⟩ := parseForms_append_newline hsource (text "b\n (c]")
  rw [hnext] at hforms hmoved
  generalize (parseForms (text "(a)\n#t" ++ Text.newline :: text "b\n (c]")).2 = error at hmoved
  cases hmoved with
  | some hmoved =>
    exact ⟨hsource, hforms, _, _, congrArg Prod.snd hnext, rfl, rfl, rfl, hmoved.line_eq,
      hmoved.column_eq, hmoved.offset_eq⟩

end Reader

end Lisplet
