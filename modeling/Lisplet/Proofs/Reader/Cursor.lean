import Lisplet.Proofs.Reader.Place

/-!
# Reading with a cursor

The forms of a source can also be read by moving one cursor through it. Such a walk looks at the
rune behind the cursor and moves over it, and the cursor stays wherever it is moved: a walk that
fails has to put it back. Its loops and its nesting have no bound of their own. They are stopped by
a clock, and a walk that is stopped has no outcome.

This module has the walks over all kinds of forms. Those over tokens do what the readers of tokens
do, from whatever place of whatever bytes they begin, if the clock has more ticks than runes are
left.
-/

namespace Lisplet

namespace Cursor

open Reader (Bracket Reading isBoundary isDigit isCloser truth? wrongCloser outOfRangeNote)

/-! ### Steps -/

/-- A walk of a cursor through a source: it gives a result and leaves the cursor somewhere, or it is
stopped by the clock. -/
abbrev Walk (α : Type) := StateT Position Option α

/-- The rune behind a cursor, if it is not at the end. -/
def runeAt? (source : Text) (p : Position) : Option Rune :=
  match source.drop p.offset with
  | [] => none
  | b :: rest => some (Rune.leading b rest)

/-- The bytes between two cursors. -/
def between (source : Text) (p q : Position) : Text :=
  (source.drop p.offset).take (q.offset - p.offset)

/-- Is stopped by the clock. -/
def outOfTime {α : Type} : Walk α := fun _ => none

/-- Puts the cursor back and fails. -/
def giveUp {α : Type} (start : Position) (e : ReadError) : Walk (Except ReadError α) := do
  set start
  return .error e

section Tokens

variable (source : Text)

/-- Looks at the rune behind the cursor. -/
def peek? : Walk (Option Rune) := do
  return runeAt? source (← get)

/-- Whether a given character is behind the cursor. -/
def looksAt (c : Char) : Walk Bool := do
  return (← peek? source).any fun r => r.isChar c

/-- Moves over the rune behind the cursor. -/
def advance : Walk Unit := do
  let p ← get
  match runeAt? source p with
  | none => return
  | some r => set (p.after r)

/-- Moves over a character if it is behind the cursor, and tells whether it was. -/
def advanceOver (c : Char) : Walk Bool := do
  if ← looksAt source c then
    advance source
    return true
  else return false

/-- Moves over runes as long as they have a property. -/
def advanceWhile (wanted : Rune → Bool) : (clock : Nat) → Walk Unit
  | 0 => outOfTime
  | clock + 1 => do
    match ← peek? source with
    | none => return
    | some r =>
      if wanted r then
        advance source
        advanceWhile wanted clock
      else return

/-! ### Walks over tokens -/

/-- Moves over the digits of a number. There may be one point among them, unless there was one in
front of them. -/
def digits (start : Position) : (clock : Nat) → (pointed : Bool) → Walk (Except ReadError Unit)
  | 0, _ => outOfTime
  | clock + 1, pointed => do
    match ← peek? source with
    | none => return .ok ()
    | some r =>
      if r.isChar '.' then
        if pointed then giveUp start (.located .invalidNumber start (text "too many dots"))
        else
          advance source
          digits start clock true
      else if isDigit r then
        advance source
        digits start clock pointed
      else return .ok ()

/-- Moves over a number behind its sign: an optional point and at least one digit. -/
def unsigned (clock : Nat) (start : Position) : Walk (Except ReadError Unit) := do
  let pointed ← advanceOver source '.'
  if (← peek? source).any isDigit then digits source start clock pointed
  else giveUp start (.located .notANumber start [])

/-- Walks over a number. -/
def number (clock : Nat) : Walk (Except ReadError Value) := do
  let start ← get
  let _ ← advanceOver source '-'
  match ← unsigned source clock start with
  | .error e => return .error e
  | .ok _ =>
    let t := between source start (← get)
    let n := (Decimal.parse? t).getD 0.0
    if n.isInf then giveUp start (.located .invalidNumber start (outOfRangeNote t))
    else return .ok (.num n)

/-- Walks over a truth value. -/
def boolean : Walk (Except ReadError Value) := do
  let start ← get
  if ← advanceOver source '#' then
    match (← peek? source).bind truth? with
    | none => giveUp start (.located .notABoolean start [])
    | some b =>
      advance source
      if (← peek? source).all isBoundary then return .ok (.bool b)
      else giveUp start (.located .notABoolean start [])
  else return .error (.located .notABoolean start [])

/-- Walks over a string. -/
def string (clock : Nat) : Walk (Except ReadError Value) := do
  let start ← get
  if ← advanceOver source '"' then
    let opened ← get
    advanceWhile source (fun r => !r.isChar '"') clock
    let closed ← get
    if ← advanceOver source '"' then return .ok (.str (between source opened closed))
    else giveUp start (.ranOut .unterminatedString start)
  else return .error (.located .notAString start [])

/-- Walks over a symbol. -/
def symbol (clock : Nat) : Walk (Except ReadError Value) := do
  let start ← get
  advanceWhile source (fun r => !isBoundary r) clock
  let behind ← get
  if behind.offset = start.offset then
    return .error (.located .invalidSymbol start
      (text "unexpected " ++ ((← peek? source).getD (.char '\x00')).quoted))
  else return .ok (.symbol (between source start behind))

end Tokens

/-! ### Walks over forms -/

/-- The kinds of forms. -/
inductive Production where
  /-- A number. -/
  | number
  /-- A truth value. -/
  | boolean
  /-- A string. -/
  | string
  /-- A list in round brackets. -/
  | list
  /-- A block in braces. -/
  | block
  /-- A symbol with a list right behind it. -/
  | call
  /-- A symbol. -/
  | symbol
  deriving DecidableEq

namespace Production

/-- All kinds of forms, in the order in which they are tried. -/
def all : List Production := [.number, .boolean, .string, .list, .block, .call, .symbol]

/-- The reader of a kind of form, with a reader of items. -/
def readerWith (item : Input → Reading Value) : Production → Input → Reading Value
  | .number => Reader.number
  | .boolean => Reader.boolean
  | .string => Reader.string
  | .list => Reader.list item
  | .block => Reader.block item
  | .call => Reader.call item
  | .symbol => Reader.symbol

/-- The reader of a kind of form. -/
def reader : Production → Input → Reading Value := readerWith Reader.form

/-- The walks try the readers of forms in their order. -/
theorem map_readerWith_all (item : Input → Reading Value) :
    all.map (readerWith item) = Reader.productions item := rfl

end Production

section Forms

variable (source : Text)

section Nested

variable (item : Walk (Except ReadError Value))

/-- Walks over items up to a closing bracket, behind those that have been read. -/
def items (b : Bracket) (start : Position) :
    (clock : Nat) → (done : List Value) → Walk (Except ReadError (List Value))
  | 0, _ => outOfTime
  | clock + 1, done => do
    advanceWhile source Rune.isBlank (clock + 1)
    match ← peek? source with
    | none => giveUp start (.ranOut b.unbalanced start)
    | some r =>
      if r.isChar b.closing then
        advance source
        return .ok done
      else if isCloser r then giveUp start (wrongCloser b start r (← get))
      else
        match ← item with
        | .error e => giveUp start e
        | .ok v => items b start clock (done ++ [v])

/-- Walks over a bracketed sequence of items. -/
def sequence (clock : Nat) (b : Bracket) : Walk (Except ReadError (List Value)) := do
  let start ← get
  if ← advanceOver source b.opening then items source item b start clock []
  else return .error (.located .notAList start [])

/-- Walks over a form of one kind. -/
def produce (clock : Nat) : Production → Walk (Except ReadError Value)
  | .number => number source clock
  | .boolean => boolean source
  | .string => string source clock
  | .list => do
    match ← sequence source item clock .round with
    | .error e => return .error e
    | .ok vs => return .ok (.list vs)
  | .block => do
    match ← sequence source item clock .brace with
    | .error e => return .error e
    | .ok vs => return .ok (.list (.symbol (text "do") :: vs))
  | .call => do
    let start ← get
    match ← symbol source clock with
    | .error _ => giveUp start (.located .notAFunctionCall start [])
    | .ok name =>
      if ← looksAt source '(' then
        match ← sequence source item clock .round with
        | .error e => giveUp start e
        | .ok vs => return .ok (.list (name :: vs))
      else giveUp start (.located .notAFunctionCall start [])
  | .symbol => symbol source clock

/-- Walks over a form of the first kind that applies. -/
def firstOf (clock : Nat) : List Production → Walk (Except ReadError Value)
  | [] => do
    return .error (.located .generic (← get)
      (text "unexpected " ++ ((← peek? source).getD (.char '\x00')).quoted))
  | production :: rest => do
    match ← produce source item clock production with
    | .ok v => return .ok v
    | .error e => if e.kind.fallsThrough then firstOf clock rest else return .error e

end Nested

/-- Walks over a form. Its items are forms again. -/
def form : (clock : Nat) → Walk (Except ReadError Value)
  | 0 => outOfTime
  | clock + 1 => firstOf source (form clock) (clock + 1) Production.all

/-- Walks over the next expression, white space in front of it aside. -/
def expression (clock : Nat) : Walk (Except ReadError Value) := do
  let start ← get
  advanceWhile source Rune.isBlank clock
  match ← peek? source with
  | none => giveUp start (.located .generic (← get) (text "unexpected end of input"))
  | some r =>
    if r.isChar ')' then
      giveUp start (.located .unbalancedParenthesis (← get) (text "unexpected " ++ r.quoted))
    else if r.isChar '\x7d' then
      giveUp start (.located .unbalancedBraces (← get) (text "unexpected " ++ r.quoted))
    else
      match ← form source clock with
      | .error e => giveUp start e
      | .ok v => return .ok v

/-- Walks over all expressions that are left, behind those that have been read. -/
def expressions : (clock : Nat) → (done : List Value) → Walk (List Value × Option ReadError)
  | 0, _ => outOfTime
  | clock + 1, done => do
    advanceWhile source Rune.isBlank (clock + 1)
    if (← peek? source).isNone then return (done, none)
    else
      match ← expression source (clock + 1) with
      | .error e => return (done, some e)
      | .ok v => expressions clock (done ++ [v])

end Forms

end Cursor

/-! ### Inputs of a source -/

/-- A rune has at least one byte. -/
theorem Rune.bytes_ne_nil (r : Rune) : r.bytes ≠ [] := by
  cases r with
  | stray b => simp [bytes]
  | char c =>
    rw [bytes, encodeCode]
    split_ifs <;> simp

/-- There are no more runes than bytes. -/
theorem Text.length_le_ofRunes (rs : List Rune) : rs.length ≤ (ofRunes rs).length := by
  induction rs with
  | nil => rfl
  | cons r rs ih =>
    have hwidth := List.length_pos_of_ne_nil r.bytes_ne_nil
    rw [ofRunes_cons, List.length_append, List.length_cons]
    omega

/-- Behind some runes, the offset is larger. -/
theorem Position.offset_lt_afterAll (p : Position) {rs : List Rune} (hne : rs ≠ []) :
    p.offset < (p.afterAll rs).offset := by
  obtain ⟨r, rest, rfl⟩ := List.exists_cons_of_ne_nil hne
  have hwidth := List.length_pos_of_ne_nil r.bytes_ne_nil
  rw [offset_afterAll, Text.ofRunes_cons, List.length_append]
  omega

namespace Input

/-- The input is what a source holds from its place on. -/
def RestOf (i : Input) (source : Text) : Prop := ofSource source i.place = i

variable {source : Text} {i j : Input} {r : Rune} {rest : List Rune}

/-- An input moves over its first rune. -/
theorem advance_of_rest (hrest : i.rest = r :: rest) : i.advance = ⟨i.place.after r, rest⟩ := by
  rw [advance, hrest]

/-- An input peeks at its first rune. -/
theorem peek?_of_rest (hrest : i.rest = r :: rest) : i.peek? = some r := by
  rw [peek?, hrest, List.head?_cons]

/-- At the end there is nothing to peek at. -/
theorem peek?_of_atEnd (hend : i.rest = []) : i.peek? = none := by
  rw [peek?, hend, List.head?_nil]

/-- The input at a place of a source is the rest of the source. -/
theorem restOf_ofSource (source : Text) (p : Position) : (ofSource source p).RestOf source := rfl

/-- The runes behind the place are those of the input. -/
theorem RestOf.runes_eq (h : i.RestOf source) :
    Text.runes (source.drop i.place.offset) = i.rest :=
  congrArg Input.rest h

/-- The bytes of a source from a place on are those of the runes that are left there. -/
theorem RestOf.drop_eq (h : i.RestOf source) :
    source.drop i.place.offset = Text.ofRunes i.rest := by
  rw [← h.runes_eq, Text.ofRunes_runes]

/-- Further on, too, an input is what the source holds. -/
theorem RestOf.leads (h : i.RestOf source) (hlead : i.Leads j) : j.RestOf source := by
  obtain ⟨taken, hrest, hplace⟩ := hlead
  have hdrop : source.drop j.place.offset = Text.ofRunes j.rest := by
    rw [hplace, Position.offset_afterAll, ← List.drop_drop, h.drop_eq, hrest, Text.ofRunes_append,
      List.drop_left]
  have hrunes : (Text.ofRunes j.rest).runes = j.rest :=
    Text.runes_ofRunes_back (h.runes_eq.trans hrest)
  rw [RestOf, ofSource, hdrop, hrunes]

end Input

namespace Cursor

open Reader (Reading isBoundary isDigit isNumeralRune truth?)

variable {source : Text} {i : Input} {clock : Nat}

/-! ### Steps from an input on -/

/-- The bytes between two cursors are those of the runes between them. -/
theorem between_eq (h : i.RestOf source) (taken : List Rune) {behind : List Rune}
    (hrest : i.rest = taken ++ behind) :
    between source i.place (i.place.afterAll taken) = Text.ofRunes taken := by
  rw [between, h.drop_eq, hrest, Position.offset_afterAll, Nat.add_sub_cancel_left,
    Text.ofRunes_append, List.take_left]

/-- The rune behind the cursor is the one that the input peeks at. -/
theorem runeAt?_eq (h : i.RestOf source) : runeAt? source i.place = i.peek? := by
  rw [runeAt?, Input.peek?, ← h.runes_eq]
  cases source.drop i.place.offset with
  | nil => rfl
  | cons b rest => rw [Text.runes_cons, List.head?_cons]

/-- Giving up puts the cursor back. -/
@[simp] theorem run_giveUp {α : Type} (start : Position) (e : ReadError) (p : Position) :
    (giveUp start e : Walk (Except ReadError α)).run p = some (.error e, start) := rfl

/-- Peeking does not move the cursor. -/
theorem run_peek? (h : i.RestOf source) : (peek? source).run i.place = some (i.peek?, i.place) := by
  simp [peek?, runeAt?_eq h]

/-- Looking at the next rune does not move the cursor. -/
theorem run_looksAt (h : i.RestOf source) (c : Char) :
    (looksAt source c).run i.place = some (i.looksAt c, i.place) := by
  simp [looksAt, run_peek? h, Input.looksAt]

/-- The cursor advances with the input. -/
theorem run_advance (h : i.RestOf source) :
    (advance source).run i.place = some ((), i.advance.place) := by
  cases hrest : i.rest <;> simp [advance, runeAt?_eq h, Input.peek?, Input.advance, hrest]

/-- The cursor advances if the character is the next one. -/
theorem run_advanceOver (h : i.RestOf source) (c : Char) :
    (advanceOver source c).run i.place =
      some (i.looksAt c, if i.looksAt c then i.advance.place else i.place) := by
  cases hlooks : i.looksAt c <;> simp [advanceOver, run_looksAt h, run_advance h, hlooks]

/-- The cursor moves over the longest run of runes with a property. -/
theorem run_advanceWhile (h : i.RestOf source) (hclock : i.rest.length < clock)
    (wanted : Rune → Bool) :
    (advanceWhile source wanted clock).run i.place = some ((), (i.span wanted).2.place) := by
  induction clock generalizing i with
  | zero => omega
  | succ clock ih =>
    rw [advanceWhile]
    cases hrest : i.rest with
    | nil => simp [run_peek? h, Input.peek?_of_atEnd hrest, Input.span, hrest, Position.afterAll]
    | cons r rest =>
      have hadvance := Input.advance_of_rest hrest
      by_cases hr : wanted r = true
      · have hshorter := Input.length_advance (ne_of_eq_of_ne hrest (List.cons_ne_nil r rest))
        have hmore := ih (h.leads i.leads_advance) (by omega)
        have hspan : (i.advance.span wanted).2.place = (i.span wanted).2.place := by
          simp [hadvance, Input.span, hrest, hr, Position.afterAll]
        simp [run_peek? h, Input.peek?_of_rest hrest, hr, run_advance h, hmore, hspan]
      · simp [run_peek? h, Input.peek?_of_rest hrest, hr, Input.span, hrest, Position.afterAll]

/-- A walk over white space ends where the input skips to. -/
theorem run_skipBlanks (h : i.RestOf source) (hclock : i.rest.length < clock) :
    (advanceWhile source Rune.isBlank clock).run i.place = some ((), i.skipBlanks.place) :=
  run_advanceWhile h hclock Rune.isBlank

/-! ### Walks over tokens follow readers -/

/-- What a reading leaves of a cursor: a failure leaves it where it stood. -/
def settle {α : Type} (p : Position) : Reading α → Except ReadError α × Position
  | .error e => (.error e, p)
  | .ok (v, behind) => (.ok v, behind.place)

/-- A walk over a symbol follows its reader. -/
theorem run_symbol (h : i.RestOf source) (hclock : i.rest.length < clock) :
    (symbol source clock).run i.place = some (settle i.place (Reader.symbol i)) := by
  have hbetween := between_eq h (i.rest.takeWhile fun r => !isBoundary r)
    List.takeWhile_append_dropWhile.symm
  by_cases hempty : i.rest.takeWhile (fun r => !isBoundary r) = []
  · simp [symbol, run_advanceWhile h hclock, run_peek? h, Reader.symbol, Input.span, hempty,
      Position.afterAll, settle]
  · have hmoved : (i.place.afterAll (i.rest.takeWhile fun r => !isBoundary r)).offset ≠
        i.place.offset := (Position.offset_lt_afterAll i.place hempty).ne'
    simp [symbol, run_advanceWhile h hclock, Reader.symbol, Input.span, hempty, hmoved, settle,
      hbetween]

/-- There is no truth value where there is no number sign. -/
theorem boolean_of_looksAt_eq_false (hlooks : i.looksAt '#' = false) :
    Reader.boolean i = .error (.located .notABoolean i.place []) := by
  rw [Reader.boolean]
  split
  · rename_i hash letter rest hrest
    have hhash : hash.isChar '#' = false := by
      simpa [Input.looksAt, Input.peek?, hrest] using hlooks
    simp [hhash]
  · rfl

/-- A walk over a truth value follows its reader. -/
theorem run_boolean (h : i.RestOf source) :
    (boolean source).run i.place = some (settle i.place (Reader.boolean i)) := by
  cases hlooks : i.looksAt '#' with
  | false =>
    simp [boolean, run_advanceOver h, hlooks, boolean_of_looksAt_eq_false hlooks, settle]
  | true =>
    obtain ⟨rest, hrest⟩ := List.head?_eq_some_iff.mp (Reader.looksAt_eq_true_iff.mp hlooks)
    have hnext := h.leads i.leads_advance
    have hpeek : i.advance.peek? = rest.head? := by rw [Input.advance_of_rest hrest, Input.peek?]
    rcases rest with _ | ⟨letter, rest⟩
    · simp [boolean, run_advanceOver h, hlooks, run_peek? hnext, hpeek, Reader.boolean, hrest,
        settle]
    cases htruth : truth? letter with
    | none =>
      simp [boolean, run_advanceOver h, hlooks, run_peek? hnext, hpeek, htruth, Reader.boolean,
        hrest, settle]
    | some b =>
      have hbehind := hnext.leads i.advance.leads_advance
      have hadvance : i.advance.advance = ⟨(i.place.after (.char '#')).after letter, rest⟩ := by
        rw [Input.advance_of_rest hrest, Input.advance_of_rest rfl]
      have hplace : (i.place.after (.char '#')).after letter = i.advance.advance.place := by
        rw [hadvance]
      have hpeek' : i.advance.advance.peek? = rest.head? := by rw [hadvance, Input.peek?]
      cases hboundary : rest.head?.all isBoundary <;>
        simp [boolean, run_advanceOver h, hlooks, run_peek? hnext, hpeek, htruth,
          run_advance hnext, run_peek? hbehind, hpeek', hboundary, Reader.boolean, hrest, settle,
          hplace]

/-- Behind all runes that are no quote, there is a quote or the end. -/
theorem looksAt_span_quote (i : Input) :
    (i.span fun r => !r.isChar '"').2.looksAt '"' = !(i.span fun r => !r.isChar '"').2.atEnd := by
  rcases hbehind : i.rest.dropWhile (fun r => !r.isChar '"') with _ | ⟨r, rest⟩
  · simp [Input.span, Input.looksAt, Input.peek?, Input.atEnd, hbehind]
  · have hr := Reader.stopsAt_dropWhile (fun r => !r.isChar '"') i.rest r (by simp [hbehind])
    simp_all [Input.span, Input.looksAt, Input.peek?, Input.atEnd]

/-- A walk over a string follows its reader. -/
theorem run_string (h : i.RestOf source) (hclock : i.rest.length < clock) :
    (string source clock).run i.place = some (settle i.place (Reader.string i)) := by
  have hopened := h.leads i.leads_advance
  have hclosed := hopened.leads (i.advance.leads_span fun r => !r.isChar '"')
  have hbetween : between source i.advance.place (i.advance.span fun r => !r.isChar '"').2.place =
      Text.ofRunes (i.advance.span fun r => !r.isChar '"').1 :=
    between_eq hopened _ List.takeWhile_append_dropWhile.symm
  have hquote := looksAt_span_quote i.advance
  have hpassed := run_advanceWhile hopened (i.leads_advance.length_le.trans_lt hclock)
    fun r => !r.isChar '"'
  by_cases hlooks : i.looksAt '"' = true
  · cases hend : (i.advance.span fun r => !r.isChar '"').2.atEnd <;>
      simp [string, run_advanceOver h, hlooks, hpassed, run_advanceOver hclosed, Reader.string,
        hquote, hend, hbetween, settle]
  · simp [string, run_advanceOver h, hlooks, Reader.string, settle]

/-! ### Walks over numbers follow the reader -/

/-- What comes of the digits and points behind a cursor if there are some points in front of it. -/
def digitsOutcome (start : Position) (points : Nat) (i : Input) :
    Except ReadError Unit × Position :=
  if 1 < points + (i.rest.takeWhile isNumeralRune).countP (fun r => r.isChar '.') then
    (.error (.located .invalidNumber start (text "too many dots")), start)
  else (.ok (), (i.span isNumeralRune).2.place)

/-- The first of the digits and points can be counted to those in front. -/
theorem digitsOutcome_cons {r : Rune} {rest : List Rune} (hrest : i.rest = r :: rest)
    (hr : isNumeralRune r = true) (start : Position) (points : Nat) :
    digitsOutcome start points i =
      digitsOutcome start (points + if r = .char '.' then 1 else 0) i.advance := by
  simp [digitsOutcome, Input.advance_of_rest hrest, Input.span, hrest, hr, Position.afterAll,
    List.countP_cons, Nat.add_assoc, Nat.add_comm]

/-- The digits end in front of any other rune, and at the end. -/
theorem digitsOutcome_of_stopsAt (hstop : Reader.StopsAt isNumeralRune i.rest) (start : Position)
    (pointed : Bool) : digitsOutcome start pointed.toNat i = (.ok (), i.place) := by
  have hnone : ([] ++ i.rest).takeWhile isNumeralRune = [] :=
    Reader.takeWhile_append_of_stopsAt (by simp) hstop
  rw [List.nil_append] at hnone
  have hle := pointed.toNat_le
  rw [digitsOutcome, if_neg]
  · rw [Input.span, hnone]
    rfl
  · rw [hnone, List.countP_nil]
    omega

/-- A walk over digits ends behind them, or at the start if there is a point too many. -/
theorem run_digits (h : i.RestOf source) (hclock : i.rest.length < clock) (start : Position)
    (pointed : Bool) :
    (digits source start clock pointed).run i.place =
      some (digitsOutcome start pointed.toNat i) := by
  induction clock generalizing i pointed with
  | zero => omega
  | succ clock ih =>
    rw [digits]
    cases hrest : i.rest with
    | nil =>
      have hstop : Reader.StopsAt isNumeralRune i.rest := by simp [Reader.StopsAt, hrest]
      rw [digitsOutcome_of_stopsAt hstop]
      simp [run_peek? h, Input.peek?_of_atEnd hrest]
    | cons r rest =>
      have hpeek := Input.peek?_of_rest hrest
      have hshorter := Input.length_advance (ne_of_eq_of_ne hrest (List.cons_ne_nil r rest))
      have hmore := ih (h.leads i.leads_advance) (by omega)
      by_cases hpoint : r = .char '.'
      · subst hpoint
        rw [digitsOutcome_cons hrest (by decide)]
        cases pointed with
        | true =>
          -- This is the second point, whatever follows.
          have htoo : digitsOutcome start 2 i.advance =
              (.error (.located .invalidNumber start (text "too many dots")), start) :=
            if_pos (by omega)
          simp [run_peek? h, hpeek, htoo]
        | false => simp [run_peek? h, hpeek, run_advance h, hmore]
      · by_cases hdigit : isDigit r = true
        · have hr : isNumeralRune r = true := by simp [isNumeralRune, hdigit]
          rw [digitsOutcome_cons hrest hr]
          simp [run_peek? h, hpeek, hpoint, hdigit, run_advance h, hmore]
        · have hstop : Reader.StopsAt isNumeralRune i.rest := by
            simp [Reader.StopsAt, hrest, isNumeralRune, hpoint, hdigit]
          rw [digitsOutcome_of_stopsAt hstop]
          simp [run_peek? h, hpeek, hpoint, hdigit]

/-- A walk over a number behind its sign. -/
theorem run_unsigned (h : i.RestOf source) (hclock : i.rest.length < clock) (start : Position) :
    (unsigned source clock start).run i.place =
      some (if Reader.beginsUnsigned i.rest then digitsOutcome start 0 i
        else (.error (.located .notANumber start []), start)) := by
  rcases hrest : i.rest with _ | ⟨r, rest⟩
  · simp [unsigned, run_advanceOver h, Input.looksAt, Input.peek?_of_atEnd hrest, run_peek? h,
      Reader.beginsUnsigned]
  have hpeek := Input.peek?_of_rest hrest
  by_cases hpoint : r = .char '.'
  · subst hpoint
    have hnext := h.leads i.leads_advance
    have hdigits := run_digits hnext (i.leads_advance.length_le.trans_lt hclock) start
    have hpeek' : i.advance.peek? = rest.head? := by rw [Input.advance_of_rest hrest, Input.peek?]
    have hlooks : i.looksAt '.' = true := by simp [Input.looksAt, hpeek]
    rw [digitsOutcome_cons hrest (by decide)]
    cases hdigit : rest.head?.any isDigit <;>
      simp [unsigned, run_advanceOver h, hlooks, run_peek? hnext, hpeek', hdigit, hdigits,
        Reader.beginsUnsigned, Reader.isDigit_point]
  · have hlooks : i.looksAt '.' = false := by simp [Input.looksAt, hpeek, hpoint]
    cases hdigit : isDigit r <;>
      simp [unsigned, run_advanceOver h, hlooks, run_peek? h, hpeek, hdigit, run_digits h hclock,
        Reader.beginsUnsigned, hpoint]

/-- A number is passed if its sign has been passed, or the lack of one. -/
theorem run_number_behind (h : i.RestOf source) (hclock : i.rest.length < clock) {j : Input}
    (sign : List Rune) {signed : Bool}
    (hover : (advanceOver source '-').run i.place = some (signed, j.place))
    (hrest : i.rest = sign ++ j.rest) (hplace : j.place = i.place.afterAll sign)
    (hsign : sign.countP (fun r => r.isChar '.') = 0)
    (hnumeral : Reader.numeral? i.rest = if Reader.beginsUnsigned j.rest then
      some (sign ++ j.rest.takeWhile isNumeralRune) else none) :
    (number source clock).run i.place = some (settle i.place (Reader.number i)) := by
  have hlead : i.Leads j := ⟨sign, hrest, hplace⟩
  have hunsigned := run_unsigned (h.leads hlead) (hlead.length_le.trans_lt hclock) i.place
  rw [Reader.number, hnumeral]
  by_cases hbegins : Reader.beginsUnsigned j.rest = true
  · have hbehind : (j.span isNumeralRune).2.place =
        i.place.afterAll (sign ++ j.rest.takeWhile isNumeralRune) := by
      rw [Position.afterAll_append, ← hplace, Input.span]
    have hsplit : i.rest =
        (sign ++ j.rest.takeWhile isNumeralRune) ++ j.rest.dropWhile isNumeralRune := by
      rw [hrest, List.append_assoc, List.takeWhile_append_dropWhile]
    have hbetween := between_eq h _ hsplit
    have hpoints : (sign ++ j.rest.takeWhile isNumeralRune).countP (fun r => r.isChar '.') =
        (j.rest.takeWhile isNumeralRune).countP fun r => r.isChar '.' := by
      rw [List.countP_append, hsign, Nat.zero_add]
    rw [if_pos hbegins, digitsOutcome, Nat.zero_add, ← hpoints, hbehind] at hunsigned
    rw [if_pos hbegins]
    generalize sign ++ j.rest.takeWhile isNumeralRune = written at hunsigned hbetween ⊢
    by_cases htoo : 1 < written.countP fun r => r.isChar '.'
    · simp [number, hover, hunsigned, htoo, settle]
    · cases hinf : ((Decimal.parse? (Text.ofRunes written)).getD 0.0).isInf <;>
        simp [number, hover, hunsigned, htoo, hbetween, hinf, settle]
  · rw [if_neg hbegins] at hunsigned ⊢
    simp [number, hover, hunsigned, settle]

/-- A walk over a number follows its reader. -/
theorem run_number (h : i.RestOf source) (hclock : i.rest.length < clock) :
    (number source clock).run i.place = some (settle i.place (Reader.number i)) := by
  have hover := run_advanceOver h '-'
  cases hlooks : i.looksAt '-' with
  | true =>
    obtain ⟨rest, hrest⟩ := List.head?_eq_some_iff.mp (Reader.looksAt_eq_true_iff.mp hlooks)
    have hadvance := Input.advance_of_rest hrest
    rw [hlooks, if_pos rfl] at hover
    refine run_number_behind h hclock [.char '-'] hover ?_ ?_ rfl ?_
    · rw [hrest, hadvance, List.singleton_append]
    · rw [hadvance]
      rfl
    · rw [hrest, Reader.numeral?_minus, hadvance]
      rfl
  | false =>
    have hsign : i.rest.head? ≠ some (.char '-') := by
      rw [Ne, ← Reader.looksAt_eq_true_iff, hlooks]
      simp
    rw [hlooks, if_neg (by simp)] at hover
    exact run_number_behind h hclock [] hover rfl rfl rfl (Reader.numeral?_of_ne_minus hsign)

end Cursor

end Lisplet
