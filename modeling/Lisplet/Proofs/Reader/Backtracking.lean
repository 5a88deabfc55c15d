import Lisplet.Proofs.Reader.Cursor

/-!
# Walks end, and fail without a trace

Every walk of a cursor ends, from whatever place of whatever bytes it begins, and with the outcome
of the reader that it follows. If it fails, at whatever depth of nested forms, the cursor is back
where it stood. If it gives a result, the cursor stands further on, and not beyond the end of the
source. Each turn of a loop and each level of nesting takes a rune, so a clock with more ticks than
the source has bytes stops nothing.
-/

namespace Lisplet.Cursor

open Reader (Bracket Reading isCloser)

variable {source : Text} {i : Input} {clock : Nat}

/-! ### Walks over nested forms -/

section Nested

-- A walk over a nested form follows its reader if the walk over an item does. The items have less
-- room than the form itself.
variable {walk : Walk (Except ReadError Value)} {item : Input → Reading Value} {room : Nat}
  (hproceeds : ∀ i, Reader.Proceeds i (item i))
  (hitem : ∀ i : Input, i.RestOf source → i.rest.length < room →
    walk.run i.place = some (settle i.place (item i)))

/-- Items fail at the end of the source. -/
theorem run_items_of_atEnd (b : Bracket) (start : Position) (done : List Value)
    (h : i.RestOf source) (hclock : i.rest.length < clock) (hend : i.skipBlanks.rest = []) :
    (items source walk b start clock done).run i.place =
      some (.error (.ranOut b.unbalanced start), start) := by
  have hfront := h.leads i.leads_skipBlanks
  cases clock with
  | zero => omega
  | succ clock =>
    rw [items]
    simp [run_skipBlanks h hclock, run_peek? hfront, Input.peek?_of_atEnd hend]

include hproceeds hitem

/-- Items are passed up to the closing bracket, behind those that have been read. A failure leaves
the cursor at the opening bracket. -/
theorem run_items (b : Bracket) (start : Position) {fuel : Nat} (done : List Value)
    (h : i.RestOf source) (hclock : i.rest.length < clock) (hroom : i.rest.length < room)
    (hfuel : i.rest.length ≤ fuel) :
    (items source walk b start clock done).run i.place = some (settle start
      ((Reader.itemsFrom item b start fuel i).map fun read => (done ++ read.1, read.2))) := by
  induction fuel generalizing i clock done with
  | zero =>
    have hle := i.leads_skipBlanks.length_le
    have hend : i.skipBlanks.rest = [] := List.eq_nil_of_length_eq_zero (by omega)
    rw [run_items_of_atEnd b start done h hclock hend]
    rfl
  | succ fuel ih =>
    have hle := i.leads_skipBlanks.length_le
    have hfront := h.leads i.leads_skipBlanks
    have hblanks := run_skipBlanks h hclock
    rw [Reader.itemsFrom]
    cases hrest : i.skipBlanks.rest with
    | nil =>
      rw [run_items_of_atEnd b start done h hclock hrest]
      rfl
    | cons r rest =>
      have hpeek := run_peek? hfront
      rw [Input.peek?_of_rest hrest] at hpeek
      obtain ⟨clock, rfl⟩ := Nat.exists_eq_add_one_of_ne_zero (Nat.ne_zero_of_lt hclock)
      rw [items]
      by_cases hcloses : r = .char b.closing
      · simp [hblanks, hpeek, hcloses, run_advance hfront, settle, Except.map]
      · by_cases hcloser : isCloser r = true
        · simp [hblanks, hpeek, hcloses, hcloser, settle, Except.map]
        · have hread := hitem i.skipBlanks hfront (by omega)
          have hmoves := hproceeds i.skipBlanks
          cases hresult : item i.skipBlanks with
          | error e =>
            rw [hresult] at hread
            simp [hblanks, hpeek, hcloses, hcloser, hread, settle, Except.map]
          | ok read =>
            obtain ⟨v, behind⟩ := read
            rw [hresult] at hread hmoves
            obtain ⟨hlead, hshorter⟩ := hmoves
            have hturn : behind.rest.length < clock := by omega
            have hmore := ih (done ++ [v]) (hfront.leads hlead) hturn (by omega) (by omega)
            cases hitems : Reader.itemsFrom item b start fuel behind <;>
              simp [hblanks, hpeek, hcloses, hcloser, hread, settle, hmore, hitems, Except.map]

/-- A walk over a bracket follows its reader. -/
theorem run_sequence (b : Bracket) (h : i.RestOf source) (hclock : i.rest.length < clock)
    (hroom : i.rest.length ≤ room) :
    (sequence source walk clock b).run i.place =
      some (settle i.place (Reader.sequence item b i)) := by
  rw [sequence, Reader.sequence]
  by_cases hlooks : i.looksAt b.opening = true
  · have hshorter := Input.length_advance (Input.rest_ne_nil hlooks)
    have hitems := run_items hproceeds hitem b i.place [] (h.leads i.leads_advance)
      (hshorter.trans hclock) (by omega) hshorter.le
    cases hread : Reader.itemsFrom item b i.place i.rest.length i.advance <;>
      simp [run_advanceOver h, hlooks, hitems, hread, settle, Except.map]
  · simp [run_advanceOver h, hlooks, settle]

/-- A walk over a call follows its reader. -/
theorem run_call (h : i.RestOf source) (hclock : i.rest.length < clock)
    (hroom : i.rest.length ≤ room) :
    (produce source walk clock .call).run i.place = some (settle i.place (Reader.call item i)) := by
  have hsymbol := run_symbol h hclock
  have hmoves := Reader.symbol_proceeds i
  rw [produce, Reader.call]
  cases hname : Reader.symbol i with
  | error e =>
    rw [hname] at hsymbol
    simp [hsymbol, settle]
  | ok read =>
    obtain ⟨name, behind⟩ := read
    rw [hname] at hsymbol hmoves
    obtain ⟨hlead, hshorter⟩ := hmoves
    have hbehind := h.leads hlead
    have harguments := run_sequence hproceeds hitem .round hbehind (hshorter.trans hclock)
      (by omega)
    by_cases hlooks : behind.looksAt '(' = true
    · cases hread : Reader.sequence item .round behind <;>
        simp [hsymbol, settle, run_looksAt hbehind, hlooks, harguments, hread]
    · simp [hsymbol, settle, run_looksAt hbehind, hlooks]

/-- A form of one kind is passed as its reader reads it. -/
theorem run_produce (production : Production) (h : i.RestOf source)
    (hclock : i.rest.length < clock) (hroom : i.rest.length ≤ room) :
    (produce source walk clock production).run i.place =
      some (settle i.place (production.readerWith item i)) := by
  have hsequence := fun b => run_sequence hproceeds hitem b h hclock hroom
  cases production with
  | number => exact run_number h hclock
  | boolean => exact run_boolean h
  | string => exact run_string h hclock
  | list =>
    rw [produce, Production.readerWith, Reader.list]
    cases hread : Reader.sequence item .round i <;> simp [hsequence, hread, settle]
  | block =>
    rw [produce, Production.readerWith, Reader.block]
    cases hread : Reader.sequence item .brace i <;> simp [hsequence, hread, settle]
  | call => exact run_call hproceeds hitem h hclock hroom
  | symbol => exact run_symbol h hclock

omit hproceeds hitem in
/-- A kind of form that does not apply leaves the cursor where the next kind begins. -/
theorem run_firstOf {kinds : List Production} (h : i.RestOf source)
    (hkinds : ∀ production ∈ kinds, (produce source walk clock production).run i.place =
      some (settle i.place (production.readerWith item i))) :
    (firstOf source walk clock kinds).run i.place = some (settle i.place
      (Reader.firstOf i (kinds.map (Production.readerWith item)))) := by
  induction kinds with
  | nil =>
    rw [firstOf]
    simp [run_peek? h, Reader.firstOf, settle]
  | cons production rest ih =>
    rw [List.forall_mem_cons] at hkinds
    have hproduce := hkinds.1
    rw [firstOf, List.map_cons, Reader.firstOf]
    cases hread : production.readerWith item i with
    | ok read =>
      rw [hread] at hproduce
      simp [hproduce, settle]
    | error e =>
      rw [hread] at hproduce
      cases hfalls : e.kind.fallsThrough <;> simp [hproduce, settle, hfalls, ih hkinds.2]

end Nested

/-- A form is passed as it is read with any bound on the nesting that is enough for it. -/
theorem run_formWithin {depth : Nat} (h : i.RestOf source) (hclock : i.rest.length < clock)
    (hdepth : i.rest.length < depth) :
    (form source clock).run i.place = some (settle i.place (Reader.formWithin depth i)) := by
  induction depth generalizing i clock with
  | zero => omega
  | succ depth ih =>
    obtain ⟨clock, rfl⟩ := Nat.exists_eq_add_one_of_ne_zero (Nat.ne_zero_of_lt hclock)
    rw [form, Reader.formWithin, ← Production.map_readerWith_all]
    apply run_firstOf h
    intro production _
    -- The items have fewer runes than the form, so one tick and one level less is enough for them.
    have hitem : ∀ j : Input, j.RestOf source → j.rest.length < i.rest.length →
        (form source clock).run j.place = some (settle j.place (Reader.formWithin depth j)) :=
      fun j hj hshorter => ih hj (by omega) (by omega)
    exact run_produce (Reader.formWithin_proceeds depth) hitem production h hclock le_rfl

/-- A walk over a form follows its reader. -/
theorem run_form (h : i.RestOf source) (hclock : i.rest.length < clock) :
    (form source clock).run i.place = some (settle i.place (Reader.form i)) :=
  run_formWithin h hclock (Nat.lt_succ_self _)

/-! ### Walks over expressions -/

/-- A walk over an expression follows its reader. -/
theorem run_expression (h : i.RestOf source) (hclock : i.rest.length < clock) :
    (expression source clock).run i.place = some (settle i.place (Reader.expression i)) := by
  have hfront := h.leads i.leads_skipBlanks
  have hblanks := run_skipBlanks h hclock
  have hpeek := run_peek? hfront
  rw [expression, Reader.expression]
  cases hrest : i.skipBlanks.rest with
  | nil =>
    rw [Input.peek?_of_atEnd hrest] at hpeek
    simp [hblanks, hpeek, settle]
  | cons r rest =>
    rw [Input.peek?_of_rest hrest] at hpeek
    by_cases hround : r = .char ')'
    · simp [hblanks, hpeek, hround, settle]
    · by_cases hbrace : r = .char '\x7d'
      · simp [hblanks, hpeek, hbrace, settle]
      · have hform := run_form hfront (i.leads_skipBlanks.length_le.trans_lt hclock)
        cases hread : Reader.form i.skipBlanks <;>
          simp [hblanks, hpeek, hround, hbrace, hform, hread, settle]

/-- Behind white space, the walk ends as the reader in front of it does. -/
theorem run_expression_skipBlanks (h : i.RestOf source) (hclock : i.rest.length < clock) :
    (expression source clock).run i.skipBlanks.place =
      some (settle i.skipBlanks.place (Reader.expression i)) := by
  have hticks := i.leads_skipBlanks.length_le.trans_lt hclock
  rw [run_expression (h.leads i.leads_skipBlanks) hticks, Reader.expression_skipBlanks]

/-- All expressions are passed, behind those that have been read. -/
theorem run_expressions (h : i.RestOf source) (hclock : i.rest.length < clock)
    (done : List Value) :
    (expressions source clock done).run i.place =
      some ((done ++ (Reader.expressions i).forms, (Reader.expressions i).error),
        (Reader.expressions i).behind.place) := by
  induction i using Reader.expressions_induction generalizing clock done with
  | atEnd i hend =>
    have hfront := h.leads i.leads_skipBlanks
    obtain ⟨clock, rfl⟩ := Nat.exists_eq_add_one_of_ne_zero (Nat.ne_zero_of_lt hclock)
    rw [expressions, Reader.expressions_of_atEnd hend]
    simp [run_skipBlanks h hclock, run_peek? hfront, Input.peek?_of_atEnd hend]
  | error i e hne herror =>
    have hfront := h.leads i.leads_skipBlanks
    obtain ⟨r, rest, hrest⟩ := List.exists_cons_of_ne_nil hne
    have hread := run_expression_skipBlanks h hclock
    rw [herror] at hread
    obtain ⟨clock, rfl⟩ := Nat.exists_eq_add_one_of_ne_zero (Nat.ne_zero_of_lt hclock)
    rw [expressions, Reader.expressions_of_error hne herror]
    simp [run_skipBlanks h hclock, run_peek? hfront, Input.peek?_of_rest hrest, hread, settle]
  | ok i v behind hok ih =>
    have hfront := h.leads i.leads_skipBlanks
    obtain ⟨hlead, hshorter⟩ : i.Leads behind ∧ behind.rest.length < i.rest.length := by
      have hmoves := Reader.expression_proceeds i
      rwa [hok] at hmoves
    have hne : i.skipBlanks.rest ≠ [] := by
      intro hnil
      rw [Reader.expression, hnil] at hok
      cases hok
    obtain ⟨r, rest, hrest⟩ := List.exists_cons_of_ne_nil hne
    have hread := run_expression_skipBlanks h hclock
    rw [hok] at hread
    obtain ⟨clock, rfl⟩ := Nat.exists_eq_add_one_of_ne_zero (Nat.ne_zero_of_lt hclock)
    have hmore := ih (h.leads hlead) (hshorter.trans_le (Nat.le_of_lt_succ hclock)) (done ++ [v])
    rw [expressions, Reader.expressions_of_ok hok]
    simp [run_skipBlanks h hclock, run_peek? hfront, Input.peek?_of_rest hrest, hread, settle,
      hmore, Reader.Forms.prepend]

/-! ### All or nothing -/

/-- How a walk from a place of a source and a reader end together: both fail, and the cursor is back
where it stood, or both give a result, and the cursor stands further on in the source, where the
reader goes on. -/
inductive AllOrNothing (source : Text) (p : Position) :
    Option (Except ReadError Value × Position) → Reading Value → Prop
  | failed (e : ReadError) : AllOrNothing source p (some (.error e, p)) (.error e)
  | moved (v : Value) {q : Position} (further : p.offset < q.offset)
      (within : q.offset ≤ source.length) :
      AllOrNothing source p (some (.ok v, q)) (.ok (v, .ofSource source q))

/-- A walk that follows a reader moves all the way or not at all. -/
theorem allOrNothing_of_run {walk : Walk (Except ReadError Value)} {result : Reading Value}
    (h : i.RestOf source) (hrun : walk.run i.place = some (settle i.place result))
    (hproceeds : Reader.Proceeds i result) :
    AllOrNothing source i.place (walk.run i.place) result := by
  rw [hrun]
  cases result with
  | error e => exact .failed e
  | ok read =>
    obtain ⟨v, behind⟩ := read
    obtain ⟨hlead, hshorter⟩ := hproceeds
    have hbehind : Input.ofSource source behind.place = behind := h.leads hlead
    obtain ⟨taken, hrest, hplace⟩ := hlead
    have hne : taken ≠ [] := by
      rintro rfl
      rw [hrest, List.nil_append] at hshorter
      exact absurd hshorter (lt_irrefl _)
    have hfurther := Position.offset_lt_afterAll i.place hne
    have hoffset := Position.offset_afterAll i.place taken
    rw [← hplace] at hfurther hoffset
    -- The bytes that were passed are some of those that were left.
    have hlength := congrArg List.length h.drop_eq
    rw [hrest, Text.ofRunes_append, List.length_drop, List.length_append] at hlength
    have hwithin : behind.place.offset ≤ source.length := by omega
    rw [settle, ← hbehind]
    exact .moved v hfurther hwithin

/-- A reader at a place goes on where its reading leaves the cursor. -/
theorem read_eq_settle (source : Text) (p : Position) :
    (Reader.mk p).read source = ((settle p (Reader.expression (.ofSource source p))).1,
      ⟨(settle p (Reader.expression (.ofSource source p))).2⟩) := by
  rw [Reader.read, Reader.input]
  cases Reader.expression (.ofSource source p) <;> rfl

/-- A source has no more runes left than it has bytes. -/
theorem length_rest_le (h : i.RestOf source) : i.rest.length ≤ source.length :=
  calc i.rest.length ≤ (Text.ofRunes i.rest).length := Text.length_le_ofRunes i.rest
    _ = (source.drop i.place.offset).length := by rw [h.drop_eq]
    _ ≤ source.length := by
        rw [List.length_drop]
        exact Nat.sub_le _ _

/-- From any place of any bytes, and with any clock that has more ticks than there are bytes, the
walk over each kind of form ends as its reader does, all or nothing, and so do the walks over any
form and over the next expression. The walks over the next expression and over all of them end as a
reader at that place does. -/
theorem walks_all_or_nothing (source : Text) (p : Position) {clock : Nat}
    (hclock : source.length < clock) :
    (∀ production : Production, AllOrNothing source p
        ((produce source (form source clock) clock production).run p)
        (production.reader (.ofSource source p))) ∧
      AllOrNothing source p ((form source clock).run p) (Reader.form (.ofSource source p)) ∧
      AllOrNothing source p ((expression source clock).run p)
        (Reader.expression (.ofSource source p)) ∧
      (∃ outcome q, (expression source clock).run p = some (outcome, q) ∧
        (Reader.mk p).read source = (outcome, ⟨q⟩)) ∧
      ∃ forms error q, (expressions source clock []).run p = some ((forms, error), q) ∧
        (Reader.mk p).readAll source = (forms, error, ⟨q⟩) := by
  have h := Input.restOf_ofSource source p
  have hticks := (length_rest_le h).trans_lt hclock
  have hform : ∀ i, Reader.Proceeds i (Reader.form i) := fun i => Reader.formWithin_proceeds _ i
  refine ⟨fun production => ?_, ?_, ?_, ?_, ?_⟩
  · have hitem : ∀ j : Input, j.RestOf source → j.rest.length < clock →
        (form source clock).run j.place = some (settle j.place (Reader.form j)) :=
      fun j hj hroom => run_form hj hroom
    apply allOrNothing_of_run h (run_produce hform hitem production h hticks hticks.le)
    apply Reader.productions_proceed hform
    rw [← Production.map_readerWith_all]
    exact List.mem_map_of_mem (by cases production <;> decide)
  · exact allOrNothing_of_run h (run_form h hticks) (hform _)
  · exact allOrNothing_of_run h (run_expression h hticks) (Reader.expression_proceeds _)
  · exact ⟨_, _, run_expression h hticks, read_eq_settle source p⟩
  · exact ⟨_, _, _, run_expressions h hticks [], rfl⟩

/-- In the middle of a character, the walk over a call moves over its name, its bracket and an
argument of bytes that are no text, and fails at the wrong closing bracket. The cursor is then back
in the middle of the character. -/
theorem walks_all_or_nothing_mismatch :
    ∃ e, (produce [0xC3, 0xA9, 0x28, 0xFF, 0x00, 0x5D]
          (form [0xC3, 0xA9, 0x28, 0xFF, 0x00, 0x5D] 7) 7 .call).run ⟨1, 4, 9⟩ =
        some (.error e, ⟨1, 4, 9⟩) ∧
      e.kind = .unbalancedParenthesis := by
  have hclock : List.length [0xC3, 0xA9, 0x28, 0xFF, 0x00, 0x5D] < 7 := by decide
  have hwalk := (walks_all_or_nothing [0xC3, 0xA9, 0x28, 0xFF, 0x00, 0x5D] ⟨1, 4, 9⟩ hclock).1 .call
  have hreader : Production.reader .call
      (.ofSource [0xC3, 0xA9, 0x28, 0xFF, 0x00, 0x5D] ⟨1, 4, 9⟩) =
        .error (Reader.wrongCloser .round ⟨2, 4, 10⟩ (.char ']') ⟨5, 4, 13⟩) := by rfl
  rw [hreader] at hwalk
  generalize (produce [0xC3, 0xA9, 0x28, 0xFF, 0x00, 0x5D] _ 7 .call).run ⟨1, 4, 9⟩ = outcome
    at hwalk ⊢
  cases hwalk with
  | failed e => exact ⟨_, rfl, rfl⟩

end Lisplet.Cursor
