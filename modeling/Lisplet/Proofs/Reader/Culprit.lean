import Lisplet.Proofs.Reader.Lines
import Lisplet.Proofs.Reader.Place

/-!
# What an error blames

A reader that fails names the place of what is wrong with the source: a string or a bracket that is
not closed, a bracket that is closed by a wrong one, a number that cannot be represented, or a
delimiter where a form should begin. To say that a bracket is to blame, and nothing inside of it, we
have to know that the items behind it are readable, also without what follows them. So each reader
is followed on two ways at once: the runes of a form spell its value even if the source is cut off
somewhere behind the form, and a failure that is not left to the next reader blames its culprit.
-/

namespace Lisplet.Reader

/-- The grammar derives values from runes: they split into tokens, and the tokens nest. -/
def Derives (rs : List Rune) (vs : List Value) : Prop := ∃ ls, Lexes rs ls ∧ Forest ls vs

/-- The characters that neither belong to a form nor open or close one. -/
def foreign : List Char := ['[', ']', '<', '>', '\'']

/-- What is wrong with a source from the place that an error names, with the kind of the error and
whether it is incomplete. -/
inductive Fault : List Rune → ReadErrorKind → (incomplete : Bool) → Prop where
  /-- A string begins, and no quote ends it. -/
  | openString {contents : List Rune} : .char '"' ∉ contents →
    Fault (.char '"' :: contents) .unterminatedString true
  /-- A bracket opens, and the source ends behind its items. -/
  | openBracket (e : Enclosure) {contents : List Rune} {items : List Value} :
    Derives contents items → Fault (.char e.bracket.opening :: contents) e.bracket.unbalanced true
  /-- A bracket opens, and a bracket that is not its counterpart closes behind its items. -/
  | wrongCloser (e : Enclosure) {contents rest : List Rune} {items : List Value} {closer : Rune} :
    Derives contents items → isCloser closer = true → closer ≠ .char e.bracket.closing →
    Fault (.char e.bracket.opening :: (contents ++ closer :: rest)) e.bracket.unbalanced false
  /-- A number has two points. -/
  | points {written rest : List Rune} : IsNumeral written rest → 1 < written.count (.char '.') →
    Fault (written ++ rest) .invalidNumber false
  /-- A number is too large. -/
  | overflow {written rest : List Rune} {n : Float} : IsNumeral written rest →
    written.count (.char '.') ≤ 1 → Decimal.parse? (Text.ofRunes written) = some n →
    n.isInf = true → Fault (written ++ rest) .invalidNumber false
  /-- A delimiter stands where a form should begin. -/
  | foreign {c : Char} {rest : List Rune} : c ∈ foreign →
    Fault (.char c :: rest) .invalidSymbol false

/-! ### Runes that spell values -/

/-- The runes `taken` spell values in front of the runes `behind`, also if these are cut off. -/
def Spells (taken behind : List Rune) (vs : List Value) : Prop :=
  ∀ front, front <+: behind → ∀ st : Nesting,
    verdict st (taken ++ front) = verdict ⟨st.items ++ vs, st.enclosing⟩ front

/-- The grammar derives what the machine ends with. -/
theorem derives_iff_verdict {rs : List Rune} {vs : List Value} :
    Derives rs vs ↔ verdict .empty rs = .forms vs := by
  rw [verdict_eq_forms_iff]
  constructor
  · rintro ⟨ls, hlexes, hforest⟩
    rw [hlexes.scan_eq]
    exact ⟨rfl, forest_iff.mp hforest⟩
  · rintro ⟨hending, hsettle⟩
    exact ⟨_, lexes_scan hending, forest_iff.mpr hsettle⟩

/-- What spells values in front of white space is derived together with it. -/
theorem Spells.derives {taken behind blanks : List Rune} {vs : List Value}
    (h : Spells taken behind vs) (hcut : blanks <+: behind)
    (hblanks : ∀ r ∈ blanks, r.isBlank = true) : Derives (taken ++ blanks) vs := by
  rw [derives_iff_verdict, h blanks hcut, verdict_of_blank hblanks]
  rfl

/-- No runes spell no values. -/
theorem spells_nil (behind : List Rune) : Spells [] behind [] := by
  intro front _ st
  simp

/-- Runes in front of others spell their values in front of those of the others. -/
theorem Spells.append {taken more behind : List Rune} {vs ws : List Value}
    (h : Spells taken (more ++ behind) vs) (hmore : Spells more behind ws) :
    Spells (taken ++ more) behind (vs ++ ws) := by
  intro front hfront st
  have hcut : more ++ front <+: more ++ behind := (List.prefix_append_right_inj more).mpr hfront
  rw [List.append_assoc, h _ hcut, hmore _ hfront]
  simp

/-- White space in front of a form is not part of what it spells. -/
theorem Spells.skip {blanks taken behind : List Rune} {vs : List Value}
    (h : Spells taken behind vs) (hblanks : ∀ r ∈ blanks, r.isBlank = true) :
    Spells (blanks ++ taken) behind vs := by
  intro front hfront st
  rw [List.append_assoc, verdict_blanks_append hblanks]
  exact h front hfront st

/-- Where runes of a kind stop, they also stop if the rest is cut off. -/
theorem StopsAt.of_isPrefix {p : Rune → Bool} {front behind : List Rune} (h : StopsAt p behind)
    (hcut : front <+: behind) : StopsAt p front := by
  obtain ⟨more, rfl⟩ := hcut
  cases front with
  | nil => simp [StopsAt]
  | cons r front => exact h

/-- A rune that does not come first does not do so if the rest is cut off. -/
theorem head?_ne_of_isPrefix {front behind : List Rune} {r : Rune} (h : behind.head? ≠ some r)
    (hcut : front <+: behind) : front.head? ≠ some r := by
  obtain ⟨more, rfl⟩ := hcut
  cases front with
  | nil => simp
  | cons c front => exact h

/-- Every form ends where the source does, so what stands behind it may be cut off. -/
theorem endsAlike_of_isPrefix {behind front : List Rune} (h : front <+: behind) :
    EndsAlike behind front where
  number hstop := hstop.of_isPrefix h
  word hstop := hstop.of_isPrefix h
  call hnot := head?_ne_of_isPrefix hnot h

/-- A token that is no bracket spells its value, unless it is the name in a call. -/
theorem IsToken.spells {written behind : List Rune} {t : Token} {v : Value}
    (h : IsToken written behind t) (hvalue : t.value? = some v)
    (hcall : (∃ name, t = .symbol name) → behind.head? ≠ some (.char '(')) :
    Spells written behind [v] := by
  intro front hcut st
  have halike := endsAlike_of_isPrefix hcut
  exact verdict_leaf (lex_of_isToken (h.endsAlike halike)) hvalue
    (fun hname => halike.call (hcall hname)) st

/-- Brackets around items spell a list, if what opens them enters it with its first items. -/
theorem Spells.enclosed {e : Enclosure} {opening inner behind : List Rune} {head vs : List Value}
    (h : Spells inner (.char e.bracket.closing :: behind) vs)
    (henter : ∀ rest st, verdict st (opening ++ rest) = verdict (st.enter e head) rest) :
    Spells (opening ++ (inner ++ [.char e.bracket.closing])) behind [.list (head ++ vs)] := by
  intro front hfront st
  have hcut : .char e.bracket.closing :: front <+: .char e.bracket.closing :: behind :=
    List.cons_prefix_cons.mpr ⟨rfl, hfront⟩
  have hlex : lex (.char e.bracket.closing :: front) = .token (.closing e) front :=
    lex_of_isToken .closing
  calc verdict st (opening ++ (inner ++ [.char e.bracket.closing]) ++ front)
      = verdict st (opening ++ (inner ++ .char e.bracket.closing :: front)) := by simp
    _ = verdict (st.enter e head) (inner ++ .char e.bracket.closing :: front) := henter _ st
    _ = verdict ⟨head ++ vs, (e, st.items) :: st.enclosing⟩ (.char e.bracket.closing :: front) :=
        h _ hcut _
    _ = verdict ⟨st.items ++ [.list (head ++ vs)], st.enclosing⟩ front := by
        rw [verdict_closing hlex]
        simp [Nesting.leave?]

/-! ### What a reader tells -/

/-- An error blames a fault that lies in an input. -/
def BlamesFault (i : Input) (e : ReadError) : Prop :=
  ∃ k : Input, i.Leads k ∧ e.offset = k.place.offset ∧ Fault k.rest e.kind e.incomplete

/-- A form with the runes that spell it, or an error that blames a fault, if it is not left to the
next reader. -/
def Tells (i : Input) : Reading Value → Prop
  | .ok (v, behind) => ∃ taken, i.rest = taken ++ behind.rest ∧ Spells taken behind.rest [v]
  | .error e => e.kind.fallsThrough = false → BlamesFault i e

/-- The items up to the closing bracket with the runes that spell them, or an error that blames a
fault behind the opening bracket or the opening bracket itself. -/
def ItemsTell (e : Enclosure) (opened i : Input) : Reading (List Value) → Prop
  | .ok (vs, behind) => ∃ taken, i.rest = taken ++ .char e.bracket.closing :: behind.rest ∧
      Spells taken (.char e.bracket.closing :: behind.rest) vs
  | .error err => BlamesFault opened err

/-- A fault further on is a fault of the input. -/
theorem BlamesFault.from_earlier {i j : Input} {e : ReadError} (h : BlamesFault j e)
    (hlead : i.Leads j) : BlamesFault i e := by
  obtain ⟨k, hk, hfault⟩ := h
  exact ⟨k, hlead.trans hk, hfault⟩

/-- A fault where the reader stands. -/
theorem blamesFault_here {i : Input} {e : ReadError} (hplace : e.offset = i.place.offset)
    (h : Fault i.rest e.kind e.incomplete) : BlamesFault i e :=
  ⟨i, .refl i, hplace, h⟩

/-- A reader that does not apply tells nothing. -/
theorem tells_declined (i : Input) {e : ReadError} (h : e.kind.fallsThrough = true) :
    Tells i (.error e) := by
  intro hfinal
  rw [h] at hfinal
  cases hfinal

/-- A final error blames a fault. -/
theorem Tells.of_not_declines {i : Input} {e : ReadError} (h : Tells i (.error e))
    (hfinal : ¬ Declines (.error e : Reading Value)) : BlamesFault i e := by
  refine h ?_
  rwa [declines_error_iff, Bool.not_eq_true] at hfinal

/-- What the first reader tells, or what the others tell if it does not apply. -/
theorem tells_firstOf_cons {i : Input} {production : Input → Reading Value}
    {rest : List (Input → Reading Value)} (h : Tells i (production i))
    (hrest : Declines (production i) → Tells i (firstOf i rest)) :
    Tells i (firstOf i (production :: rest)) := by
  by_cases hdeclines : Declines (production i)
  · rw [firstOf_of_declines hdeclines]
    exact hrest hdeclines
  · rwa [firstOf_of_not_declines hdeclines]

/-! ### Readers of tokens -/

/-- The reader of numbers. -/
theorem number_tells (i : Input) : Tells i (number i) := by
  rw [number]
  cases hfound : numeral? i.rest with
  | none => exact tells_declined i rfl
  | some written =>
    obtain ⟨behind, hrest, hnumeral⟩ := numeral?_eq_some_iff.mp hfound
    by_cases hpoints : 1 < written.countP (fun r => r.isChar '.')
    · simp only [if_pos hpoints]
      refine fun _ => blamesFault_here rfl ?_
      rw [hrest]
      exact .points hnumeral hpoints
    · have hcount : written.count (.char '.') ≤ 1 := not_lt.mp hpoints
      obtain ⟨n, -, hparse, -⟩ := parse?_numeral_append hnumeral (List.forall_mem_nil _)
        (by rwa [List.append_nil])
      simp only [if_neg hpoints, hparse, Option.getD_some]
      split_ifs with hinf
      · refine fun _ => blamesFault_here rfl ?_
        rw [hrest]
        exact .overflow hnumeral hcount hparse hinf
      · have htoken : IsToken written behind (.number n) :=
          .number hnumeral hcount hparse (by simpa using hinf)
        rw [hrest, List.drop_left]
        exact ⟨written, hrest, htoken.spells rfl (by simp)⟩

/-- The reader of truth values. -/
theorem boolean_tells (i : Input) : Tells i (boolean i) := by
  rw [boolean]
  split
  · rename_i hash letter rest hrest
    split
    · rename_i b hb
      split_ifs with hboundary
      · rw [Option.ite_none_right_eq_some, Rune.isChar_iff] at hb
        obtain ⟨rfl, htruth⟩ := hb
        have hstop : StopsAt (fun r => !endsWord r) rest := by
          intro r hr
          rw [Option.all_eq_true, isBoundary_eq_endsWord] at hboundary
          simp [hboundary r hr]
        have htoken : IsToken [.char '#', letter] rest (.truth b) :=
          .truth (truth?_eq_some_iff.mp htruth) hstop
        exact ⟨[.char '#', letter], hrest, htoken.spells rfl (by simp)⟩
      · exact tells_declined i rfl
    · exact tells_declined i rfl
  · exact tells_declined i rfl

/-- The reader of strings. -/
theorem string_tells (i : Input) : Tells i (string i) := by
  by_cases hquote : i.rest.head? = some (.char '"')
  · obtain ⟨rest, hrest⟩ := List.head?_eq_some_iff.mp hquote
    have hadvance : i.advance.rest = rest := by simp [Input.advance, hrest]
    rw [string, if_pos (looksAt_eq_true_iff.mpr hquote)]
    simp only [Input.span, hadvance]
    split_ifs with hend
    · refine fun _ => blamesFault_here rfl ?_
      rw [hrest]
      refine .openString fun hmem => ?_
      have hnone := List.dropWhile_eq_nil_iff.mp (List.isEmpty_iff.mp hend) _ hmem
      simp at hnone
    · by_cases hmem : .char '"' ∈ rest
      · obtain ⟨contents, behind, rfl, hcontents⟩ := List.eq_append_cons_of_mem hmem
        have hrun : ∀ r ∈ contents, (!r.isChar '"') = true := by
          intro r hr
          simpa using fun heq : r = .char '"' => hcontents (heq ▸ hr)
        have hstop : StopsAt (fun r => !r.isChar '"') (.char '"' :: behind) := by simp [StopsAt]
        have htoken : IsToken (.char '"' :: contents ++ [.char '"']) behind
            (.string (Text.ofRunes contents)) := .string hcontents
        rw [takeWhile_append_of_stopsAt hrun hstop, dropWhile_append_of_stopsAt hrun hstop]
        exact ⟨_, by simp [hrest, Input.advance], htoken.spells rfl (by simp)⟩
      · refine absurd (List.isEmpty_iff.mpr (List.dropWhile_eq_nil_iff.mpr fun r hr => ?_)) hend
        simpa using fun heq : r = .char '"' => hmem (heq ▸ hr)
  · rw [string, if_neg (mt looksAt_eq_true_iff.mp hquote)]
    exact tells_declined i rfl

/-- A word that the readers of numbers, truth values and strings leave alone is a symbol. -/
theorem isToken_symbol {i behind : Input} {v : Value} (hnumber : Declines (number i))
    (hboolean : Declines (boolean i)) (hstring : Declines (string i))
    (hsymbol : symbol i = .ok (v, behind)) :
    ∃ written, i.rest = written ++ behind.rest ∧ v = .symbol (Text.ofRunes written) ∧
      IsToken written behind.rest (.symbol (Text.ofRunes written)) := by
  obtain ⟨written, rest, hrest, hwritten, hstop⟩ : ∃ written rest, i.rest = written ++ rest ∧
      (∀ r ∈ written, endsWord r = false) ∧ StopsAt (fun r => !endsWord r) rest :=
    ⟨i.rest.takeWhile (fun r => !endsWord r), _, List.takeWhile_append_dropWhile.symm,
      fun r hr => by simpa using List.mem_takeWhile_imp hr, stopsAt_dropWhile _ _⟩
  have hne : written ≠ [] := by
    rintro rfl
    have hrun : ([] ++ rest).takeWhile (fun r => !endsWord r) = [] :=
      takeWhile_append_of_stopsAt (by simp) hstop
    simp only [symbol, isBoundary_eq_endsWord, Input.span, hrest, hrun, List.isEmpty_nil,
      if_true] at hsymbol
    cases hsymbol
  obtain ⟨place, hread⟩ := symbol_of_word hrest hne hwritten hstop
  obtain ⟨rfl, rfl⟩ : v = .symbol (Text.ofRunes written) ∧ behind = ⟨place, rest⟩ := by
    rw [hread] at hsymbol
    cases hsymbol
    exact ⟨rfl, rfl⟩
  refine ⟨written, hrest, rfl, .symbol hne hwritten hstop (fun hbegins => ?_) (fun b hb => ?_)
    fun hquote => ?_⟩
  · have hfound : numeral? i.rest ≠ none := by
      rw [Ne, numeral?_eq_none_iff, not_not, hrest]
      exact hbegins.append rest
    obtain ⟨numeral, hnumeral⟩ := Option.ne_none_iff_exists'.mp hfound
    obtain ⟨behind, hsplit, hnumeral⟩ := numeral?_eq_some_iff.mp hnumeral
    exact (number_applies hsplit hnumeral).1 hnumber
  · have hlex : lex i.rest = .token (.truth b) rest := hrest ▸ lex_of_isToken (.truth hb hstop)
    exact (boolean_applies hlex).1 hboolean
  · obtain ⟨contents, hcontents⟩ := List.head?_eq_some_iff.mp hquote
    have hopen : i.rest = .char '"' :: (contents ++ rest) := by rw [hrest, hcontents]; rfl
    exact (string_applies hopen).1 hstring

/-- The reader of symbols always applies. -/
theorem not_declines_symbol (i : Input) : ¬ Declines (symbol i) := by
  rw [symbol]
  simp only
  split_ifs
  · exact not_declines_error rfl
  · exact not_declines_ok _

/-- Where a form may begin and no list and no block does, a reader of symbols finds one or a foreign
character. -/
theorem symbol_tells {i : Input} (hform : BeginsForm i.rest) (hnumber : Declines (number i))
    (hboolean : Declines (boolean i)) (hstring : Declines (string i))
    (hopening : ∀ e : Enclosure, i.rest.head? ≠ some (.char e.bracket.opening))
    (hcall : ∀ v behind, symbol i = .ok (v, behind) → behind.rest.head? ≠ some (.char '(')) :
    Tells i (symbol i) := by
  cases hsymbol : symbol i with
  | ok read =>
    obtain ⟨v, behind⟩ := read
    obtain ⟨written, hrest, rfl, htoken⟩ := isToken_symbol hnumber hboolean hstring hsymbol
    exact ⟨written, hrest, htoken.spells rfl fun _ => hcall _ _ hsymbol⟩
  | error e =>
    obtain ⟨r, rest, hrest, hblank, hround, hbrace⟩ := hform
    have hboundary : endsWord r = true := by
      by_contra hword
      obtain ⟨written, behind, hsplit, hne, hwritten, hstop⟩ :=
        exists_word (Bool.not_eq_true _ ▸ hword) rest
      obtain ⟨place, hread⟩ := symbol_of_word (hrest.trans hsplit) hne hwritten hstop
      rw [hread] at hsymbol
      cases hsymbol
    obtain ⟨c, hc, rfl⟩ : ∃ c ∈ wordEnds, r = .char c := by
      simpa [endsWord, hblank] using hboundary
    have hforeign : c ∈ foreign := by
      have hlist := hopening .list
      have hblock := hopening .block
      simp only [hrest, List.head?_cons, Enclosure.bracket, Bracket.round, Bracket.brace, ne_eq,
        Option.some.injEq, Rune.char.injEq] at hlist hblock
      simp only [wordEnds, foreign, List.mem_cons, List.not_mem_nil, or_false] at hc ⊢
      simp only [ne_eq, Rune.char.injEq] at hround hbrace
      tauto
    have hnone : (Rune.char c :: rest).takeWhile (fun r => !endsWord r) = [] := by
      simp [hboundary]
    simp only [symbol, isBoundary_eq_endsWord, Input.span, hrest, hnone, List.isEmpty_nil,
      if_true] at hsymbol
    cases hsymbol
    refine fun _ => blamesFault_here rfl ?_
    rw [hrest]
    exact .foreign hforeign

/-! ### Readers of bracketed forms -/

section Bracketed

variable {item : Input → Reading Value} {depth : Nat}
  (htells : ∀ i : Input, i.rest.length < depth → BeginsForm i.rest → Tells i (item i))
  (hproceeds : ∀ i, Proceeds i (item i)) (hfinal : ∀ i, ¬ Declines (item i))
include htells hproceeds hfinal

/-- The invariant of the loop is that the runes between the opening bracket and the place that was
reached spell the items that were read. -/
theorem itemsFrom_tells (e : Enclosure) {opened i : Input} {passed : List Rune} {vs : List Value}
    (hopened : opened.rest = .char e.bracket.opening :: (passed ++ i.rest))
    (hspells : Spells passed i.rest vs) (hlead : opened.Leads i) (fuel : Nat)
    (hfuel : i.rest.length < fuel) (hdepth : i.rest.length < depth) :
    ItemsTell e opened i (itemsFrom item e.bracket opened.place fuel i) := by
  induction fuel generalizing i passed vs with
  | zero => omega
  | succ fuel ih =>
    obtain ⟨blanks, hi, hblanks, hfront⟩ := skipBlanks_spec i
    have hlength : i.skipBlanks.rest.length ≤ i.rest.length := i.leads_skipBlanks.length_le
    have hderives : Derives (passed ++ blanks) vs :=
      hspells.derives ⟨i.skipBlanks.rest, hi.symm⟩ hblanks
    rw [itemsFrom]
    cases hrest : i.skipBlanks.rest with
    | nil =>
      refine blamesFault_here rfl ?_
      rw [hrest, List.append_nil] at hi
      rw [hopened, hi]
      exact .openBracket e hderives
    | cons r rest =>
      simp only
      split_ifs with hclosing hcloser
      · have hr : r = .char e.bracket.closing := Rune.isChar_iff.mp hclosing
        have hbehind : i.skipBlanks.advance.rest = rest := by simp [Input.advance, hrest]
        refine ⟨blanks, by rw [hi, hrest, hr, hbehind], ?_⟩
        simpa using (spells_nil _).skip hblanks
      · refine blamesFault_here rfl ?_
        rw [hopened, hi, hrest, ← List.append_assoc]
        exact .wrongCloser e hderives hcloser (by simpa using hclosing)
      · have hbegins : BeginsForm i.skipBlanks.rest := by
          refine ⟨r, rest, hrest, hfront r (by simp [hrest]), ?_, ?_⟩ <;>
            (rintro rfl; exact hcloser (by decide))
        have hitem := htells i.skipBlanks (by omega) hbegins
        have hmoves := hproceeds i.skipBlanks
        have hnot := hfinal i.skipBlanks
        cases hresult : item i.skipBlanks with
        | error err =>
          rw [hresult] at hitem hnot
          exact (hitem.of_not_declines hnot).from_earlier (hlead.trans i.leads_skipBlanks)
        | ok read =>
          obtain ⟨v, behind⟩ := read
          rw [hresult] at hitem hmoves
          obtain ⟨taken, htaken, hone⟩ := hitem
          obtain ⟨hfurther, hshorter⟩ := hmoves
          have hpassed : i.rest = (blanks ++ taken) ++ behind.rest := by
            rw [hi, htaken, List.append_assoc]
          have hsplit : opened.rest = .char e.bracket.opening ::
              ((passed ++ (blanks ++ taken)) ++ behind.rest) := by
            rw [hopened, hpassed, List.append_assoc passed]
          have hmore := ih hsplit ((hpassed ▸ hspells).append (hone.skip hblanks))
            ((hlead.trans i.leads_skipBlanks).trans hfurther) (by omega) (by omega)
          simp only
          cases hitems : itemsFrom item e.bracket opened.place fuel behind with
          | error err =>
            rw [hitems] at hmore
            exact hmore
          | ok read =>
            obtain ⟨ws, last⟩ := read
            rw [hitems] at hmore
            obtain ⟨inner, hinner, hall⟩ := hmore
            refine ⟨(blanks ++ taken) ++ inner, ?_, ?_⟩
            · simp [hpassed, hinner]
            · exact ((hinner ▸ hone).skip hblanks).append hall

omit htells hproceeds in
/-- Where the reader of a bracket does not apply, the bracket does not open. -/
theorem head?_ne_opening {e : Enclosure} {i : Input}
    (h : Declines (sequence item e.bracket i)) : i.rest.head? ≠ some (.char e.bracket.opening) := by
  intro hlooks
  obtain ⟨rest, hi⟩ := List.head?_eq_some_iff.mp hlooks
  obtain ⟨place, hsequence⟩ := sequence_applies hi item
  rw [hsequence] at h
  exact not_declines_itemsFrom hfinal e _ _ _ h

/-- The reader of a bracket tells its items or blames a fault. -/
theorem sequence_tells (e : Enclosure) {i : Input} {rest : List Rune}
    (hi : i.rest = .char e.bracket.opening :: rest) (hdepth : i.rest.length < depth + 1) :
    ItemsTell e i i.advance (sequence item e.bracket i) := by
  have hlooks : i.looksAt e.bracket.opening = true := by rw [looksAt_eq_true_iff, hi]; rfl
  have hadvance : i.advance.rest = rest := by simp [Input.advance, hi]
  have hshorter := Input.length_advance (Input.rest_ne_nil hlooks)
  rw [sequence, if_pos hlooks]
  have hopened : i.rest = .char e.bracket.opening :: ([] ++ i.advance.rest) := by
    rw [hi, hadvance, List.nil_append]
  exact itemsFrom_tells htells hproceeds hfinal e hopened (spells_nil _) i.leads_advance _
    hshorter (by omega)

/-- A list or a block tells of itself with its brackets. -/
theorem enclose_tells (e : Enclosure) {i : Input} (hdepth : i.rest.length < depth + 1) :
    Tells i (enclose e.head (sequence item e.bracket i)) := by
  by_cases hlooks : i.rest.head? = some (.char e.bracket.opening)
  · obtain ⟨rest, hi⟩ := List.head?_eq_some_iff.mp hlooks
    have hitems := sequence_tells htells hproceeds hfinal e hi hdepth
    have hadvance : i.advance.rest = rest := by simp [Input.advance, hi]
    cases hsequence : sequence item e.bracket i with
    | error err =>
      rw [hsequence] at hitems
      exact fun _ => hitems
    | ok read =>
      obtain ⟨vs, behind⟩ := read
      rw [hsequence] at hitems
      obtain ⟨inner, hinner, hspells⟩ := hitems
      rw [hadvance] at hinner
      have henter : ∀ rest st, verdict st ([.char e.bracket.opening] ++ rest) =
          verdict (st.enter e e.head) rest :=
        fun rest st => verdict_opening (lex_of_isToken .opening) st
      exact ⟨_, by simp [hi, hinner], hspells.enclosed henter⟩
  · obtain ⟨err, herror, hfalls⟩ := (sequence_declines hlooks : Declines (sequence item _ i))
    rw [herror]
    exact tells_declined i hfalls

/-- A call tells of itself with its name and its brackets. -/
theorem call_tells {i : Input} (hnumber : Declines (number i)) (hboolean : Declines (boolean i))
    (hstring : Declines (string i)) (hdepth : i.rest.length < depth + 1) :
    Tells i (call item i) := by
  by_cases hcall : ∃ name behind, symbol i = .ok (name, behind) ∧
      behind.rest.head? = some (.char '(')
  · obtain ⟨name, opened, hsymbol, hlooks⟩ := hcall
    obtain ⟨written, hwritten, rfl, htoken⟩ := isToken_symbol hnumber hboolean hstring hsymbol
    obtain ⟨rest, hrest⟩ := List.head?_eq_some_iff.mp hlooks
    have hmoves := symbol_proceeds i
    rw [hsymbol] at hmoves
    obtain ⟨hlead, hshorter⟩ := hmoves
    have hitems := sequence_tells htells hproceeds hfinal .list hrest (by omega)
    have hadvance : opened.advance.rest = rest := by simp [Input.advance, hrest]
    rw [call_eq_enclose hsymbol hlooks]
    cases hsequence : sequence item .round opened with
    | error err =>
      rw [Enclosure.bracket, hsequence] at hitems
      exact fun _ => BlamesFault.from_earlier hitems hlead
    | ok read =>
      obtain ⟨vs, behind⟩ := read
      rw [Enclosure.bracket, hsequence] at hitems
      obtain ⟨inner, hinner, hspells⟩ := hitems
      rw [hadvance] at hinner
      have henter : ∀ rest st, verdict st ((written ++ [.char '(']) ++ rest) =
          verdict (st.enter .list [.symbol (Text.ofRunes written)]) rest := by
        intro rest st
        have hname : IsToken written (.char '(' :: rest) _ :=
          htoken.endsAlike (endsAlike_of_head? hlooks.symm)
        rw [List.append_assoc]
        exact verdict_call (lex_of_isToken hname) st
      refine ⟨_, ?_, hspells.enclosed (e := .list) henter⟩
      simp [hwritten, hrest, hinner]
  · have hdeclines : Declines (call item i) :=
      call_declines (fun name behind hsymbol hlooks => hcall ⟨name, behind, hsymbol, hlooks⟩) item
    obtain ⟨err, herror, hfalls⟩ := hdeclines
    rw [herror]
    exact tells_declined i hfalls

/-- The readers of forms tell, one after the other, of what stands where a form may begin. -/
theorem productions_tell {i : Input} (hdepth : i.rest.length < depth + 1)
    (hform : BeginsForm i.rest) : Tells i (firstOf i (productions item)) := by
  refine tells_firstOf_cons (number_tells i) fun hnumber => ?_
  refine tells_firstOf_cons (boolean_tells i) fun hboolean => ?_
  refine tells_firstOf_cons (string_tells i) fun hstring => ?_
  refine tells_firstOf_cons ?_ fun hlist => ?_
  · rw [list_eq_enclose]
    exact enclose_tells htells hproceeds hfinal .list hdepth
  refine tells_firstOf_cons ?_ fun hblock => ?_
  · rw [block_eq_enclose]
    exact enclose_tells htells hproceeds hfinal .block hdepth
  refine tells_firstOf_cons (call_tells htells hproceeds hfinal hnumber hboolean hstring hdepth)
    fun hcall => ?_
  rw [list_eq_enclose, declines_enclose_iff] at hlist
  rw [block_eq_enclose, declines_enclose_iff] at hblock
  have hopening : ∀ e : Enclosure, i.rest.head? ≠ some (.char e.bracket.opening)
    | .list => head?_ne_opening hfinal (e := .list) hlist
    | .block => head?_ne_opening hfinal (e := .block) hblock
  refine tells_firstOf_cons (symbol_tells hform hnumber hboolean hstring hopening ?_)
    fun hsymbol => absurd hsymbol (not_declines_symbol i)
  intro v behind hsymbol hlooks
  rw [call_eq_enclose hsymbol hlooks, declines_enclose_iff] at hcall
  exact head?_ne_opening hfinal (e := .list) hcall hlooks

end Bracketed

/-- A form tells of itself, or its error of a fault. -/
theorem formWithin_tells (depth : Nat) (i : Input) (hdepth : i.rest.length < depth)
    (hform : BeginsForm i.rest) : Tells i (formWithin depth i) := by
  induction depth generalizing i with
  | zero => omega
  | succ depth ih =>
    exact productions_tell ih (formWithin_proceeds depth) (not_declines_formWithin depth) hdepth
      hform

/-! ### Readers of sources -/

/-- What an error of a reader is about. The runes `before` stand between the place where the reader
began and the place that the error names, and the runes `rest` behind that. -/
inductive Culprit : (before rest : List Rune) → ReadErrorKind → (incomplete : Bool) → Prop where
  /-- Nothing but white space is left. -/
  | nothingLeft {before : List Rune} : (∀ r ∈ before, r.isBlank = true) →
    Culprit before [] .generic false
  /-- A bracket closes that was not opened. -/
  | strayCloser (e : Enclosure) {before rest : List Rune} : (∀ r ∈ before, r.isBlank = true) →
    Culprit before (.char e.bracket.closing :: rest) e.bracket.unbalanced false
  /-- Something is wrong with a form or inside of it. -/
  | fault {before rest : List Rune} {kind : ReadErrorKind} {incomplete : Bool} :
    Fault rest kind incomplete → Culprit before rest kind incomplete

/-- An expression with the runes that spell it, or an error with its culprit. -/
def ExpressionTells (i : Input) : Reading Value → Prop
  | .ok (v, behind) => ∃ taken, i.rest = taken ++ behind.rest ∧ Spells taken behind.rest [v]
  | .error err => ∃ before rest, i.rest = before ++ rest ∧
      err.offset = (i.place.afterAll before).offset ∧ Culprit before rest err.kind err.incomplete

/-- The reader of expressions gives an expression with the runes that spell it, or an error with its
culprit. -/
theorem expression_tells (i : Input) : ExpressionTells i (expression i) := by
  obtain ⟨blanks, hi, hblanks, hfront⟩ := skipBlanks_spec i
  have hplace : i.skipBlanks.place = i.place.afterAll blanks := by
    have htaken : i.rest.takeWhile Rune.isBlank = blanks := by
      rw [hi, takeWhile_append_of_stopsAt hblanks hfront]
    rw [← htaken]
    rfl
  rw [expression]
  cases hrest : i.skipBlanks.rest with
  | nil =>
    refine ⟨blanks, [], by rw [hi, hrest], ?_, .nothingLeft hblanks⟩
    rw [← hplace]
    rfl
  | cons r rest =>
    have hstray : ∀ e : Enclosure, ∀ note, r = .char e.bracket.closing →
        ExpressionTells i (.error (.located e.bracket.unbalanced i.skipBlanks.place note)) := by
      rintro e note rfl
      refine ⟨blanks, _, by rw [hi, hrest], ?_, .strayCloser e hblanks⟩
      rw [← hplace]
      rfl
    simp only [Rune.isChar_iff]
    split_ifs with hround hbrace
    · exact hstray .list _ hround
    · exact hstray .block _ hbrace
    · have hform := formWithin_tells (i.skipBlanks.rest.length + 1) i.skipBlanks (by omega)
        ⟨r, rest, hrest, hfront r (by simp [hrest]), hround, hbrace⟩
      have hfinal := not_declines_formWithin (i.skipBlanks.rest.length + 1) i.skipBlanks
      rw [form]
      cases hresult : formWithin (i.skipBlanks.rest.length + 1) i.skipBlanks with
      | error err =>
        rw [hresult] at hform hfinal
        obtain ⟨k, hlead, hoffset, hfault⟩ :=
          (hform.of_not_declines hfinal).from_earlier i.leads_skipBlanks
        obtain ⟨before, hbefore, hk⟩ := hlead
        exact ⟨before, k.rest, hbefore, by rw [hoffset, hk], .fault hfault⟩
      | ok read =>
        rw [hresult] at hform
        obtain ⟨taken, htaken, hspells⟩ := hform
        exact ⟨blanks ++ taken, by rw [hi, htaken, List.append_assoc], hspells.skip hblanks⟩

/-- A fault of a form is of a kind of its own. -/
theorem Fault.kind_ne_generic {rs : List Rune} {kind : ReadErrorKind} {incomplete : Bool}
    (h : Fault rs kind incomplete) : kind ≠ .generic := by
  cases h with
  | openBracket e => cases e <;> simp [Enclosure.bracket, Bracket.round, Bracket.brace]
  | wrongCloser e => cases e <;> simp [Enclosure.bracket, Bracket.round, Bracket.brace]
  | _ => simp

/-- An error of no kind means that nothing but white space was left. -/
theorem Culprit.blank_of_generic {before rest : List Rune} {kind : ReadErrorKind}
    {incomplete : Bool} (h : Culprit before rest kind incomplete) (hkind : kind = .generic) :
    rest = [] ∧ ∀ r ∈ before, r.isBlank = true := by
  cases h with
  | nothingLeft hblank => exact ⟨rfl, hblank⟩
  | strayCloser e => cases e <;> cases hkind
  | fault hfault => exact absurd hkind hfault.kind_ne_generic

/-- Only where nothing is left is an error generic. -/
theorem expression_generic_iff {i : Input} :
    (∃ err, expression i = .error err ∧ err.kind = .generic) ↔
      ∀ r ∈ i.rest, r.isBlank = true := by
  constructor
  · rintro ⟨err, herror, hkind⟩
    have htells := expression_tells i
    rw [herror] at htells
    obtain ⟨before, rest, hi, -, hculprit⟩ := htells
    obtain ⟨rfl, hblank⟩ := hculprit.blank_of_generic hkind
    rwa [hi, List.append_nil]
  · intro hblank
    have hnil : i.skipBlanks.rest = [] := List.dropWhile_eq_nil_iff.mpr hblank
    refine ⟨.located .generic i.skipBlanks.place (text "unexpected end of input"), ?_, rfl⟩
    simp only [expression, hnil]

/-- Reading all expressions fails as reading the next one fails at the place that was reached. -/
theorem expression_behind {i : Input} {err : ReadError} (h : (expressions i).error = some err) :
    expression (expressions i).behind = .error err ∧ err.kind ≠ .generic := by
  induction i using expressions_induction with
  | atEnd i hnil =>
    rw [expressions_of_atEnd hnil] at h
    cases h
  | error i err' hne herror =>
    rw [expressions_of_error hne herror] at h ⊢
    obtain rfl := Option.some.inj h
    refine ⟨by rwa [expression_skipBlanks], fun hkind => hne ?_⟩
    exact List.dropWhile_eq_nil_iff.mpr (expression_generic_iff.mp ⟨err', herror, hkind⟩)
  | ok i v behind hok ih =>
    rw [expressions_of_ok hok] at h ⊢
    exact ih h

/-- An error of a reader that began at a given offset of a source names the place of its culprit
there. -/
def HasCulprit (source : Text) (start : Nat) (err : ReadError) : Prop :=
  ∃ front before rest, source.runes = front ++ before ++ rest ∧
    start = (Text.ofRunes front).length ∧ err.offset = (Text.ofRunes (front ++ before)).length ∧
    Culprit before rest err.kind err.incomplete

/-- The culprit of an expression somewhere in a source has its place in the whole source. -/
theorem hasCulprit_of_expression {source : Text} {p : Position} (h : p.Within source) {k : Input}
    (hlead : (Input.ofSource source p).Leads k) {err : ReadError}
    (herror : expression k = .error err) : HasCulprit source k.place.offset err := by
  obtain ⟨front, hrunes, hplace⟩ := h.runes_eq hlead
  have htells := expression_tells k
  rw [herror] at htells
  obtain ⟨before, rest, hrest, hoffset, hculprit⟩ := htells
  refine ⟨front, before, rest, by rw [hrunes, hrest, List.append_assoc], ?_, ?_, hculprit⟩
  · rw [hplace, Position.afterAll_start]
  · rw [hoffset, hplace, ← Position.afterAll_append, Position.afterAll_start]

/-- Wherever a reader has come to in a source, an error that it gives is about what stands at the
place that the error names, and it is generic exactly if only white space is left. Reading all
expressions fails with such an error of the place that it reaches, which is never generic. -/
theorem errors_have_culprits (source : Text) (requests : List Request) :
    (∀ err, ((afterRequests source requests).read source).1 = .error err →
      HasCulprit source (afterRequests source requests).place.offset err) ∧
    ((∃ err, ((afterRequests source requests).read source).1 = .error err ∧ err.kind = .generic) ↔
      ∀ r ∈ ((afterRequests source requests).input source).rest, r.isBlank = true) ∧
    ∀ forms err reached, (afterRequests source requests).readAll source =
        (forms, some err, reached) →
      err.kind ≠ .generic ∧ HasCulprit source reached.place.offset err := by
  have hwithin := afterRequests_within source requests
  generalize afterRequests source requests = r at *
  have hread : ∀ err,
      (r.read source).1 = .error err ↔ expression (r.input source) = .error err := by
    intro err
    rw [read]
    cases expression (r.input source) <;> simp
  refine ⟨fun err herror => ?_, ?_, fun forms err reached hresult => ?_⟩
  · exact hasCulprit_of_expression hwithin (.refl _) ((hread err).mp herror)
  · simp only [hread]
    exact expression_generic_iff
  · obtain ⟨-, herror, hreached⟩ : _ ∧ (expressions (r.input source)).error = some err ∧
        (⟨(expressions (r.input source)).behind.place⟩ : Reader) = reached := by
      simpa [readAll] using hresult
    obtain ⟨hbehind, hkind⟩ := expression_behind herror
    rw [← hreached]
    exact ⟨hkind, hasCulprit_of_expression hwithin (expressions_proceed _).1 hbehind⟩

/-- Behind the first expression of a source, a block in a list is closed by a round bracket. The
error names the place of the block, whose items can be read. -/
theorem errors_have_culprits_mismatch :
    ∃ err, ((afterRequests (text "a (b \x7bc \"(\") d") [.read]).read
        (text "a (b \x7bc \"(\") d")).1 = .error err ∧
      err.kind = .unbalancedBraces ∧ err.offset = 5 ∧ err.incomplete = false ∧
      HasCulprit (text "a (b \x7bc \"(\") d") 1 err := by
  have herror : ((afterRequests (text "a (b \x7bc \"(\") d") [.read]).read
      (text "a (b \x7bc \"(\") d")).1 =
        .error ⟨.unbalancedBraces, 5, 1, 6, mentioning (text "unexpected ')'") 1 12, false⟩ := rfl
  have hculprit := (errors_have_culprits (text "a (b \x7bc \"(\") d") [.read]).1 _ herror
  exact ⟨_, herror, rfl, rfl, rfl, hculprit⟩

end Lisplet.Reader
