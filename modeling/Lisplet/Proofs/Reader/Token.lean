import Lisplet.Reader.Form
import Mathlib.Data.List.TakeWhile

/-!
# Tokens of a source text

A token is a number, a truth value, a string, a bracket or a symbol. `IsToken` says which runes make
up a token in front of other runes, without reference to the readers of forms. The runes of a number
are those that `numeral?` finds.
-/

namespace Lisplet

/-- A rune is a character exactly if it is that of the character. -/
@[simp]
theorem Rune.isChar_iff {r : Rune} {c : Char} : r.isChar c = true ↔ r = .char c := by
  simp [Rune.isChar]

/-- A rune is not a character exactly if it is another one. -/
@[simp]
theorem Rune.isChar_eq_false_iff {r : Rune} {c : Char} : r.isChar c = false ↔ r ≠ .char c := by
  simp [Rune.isChar]

namespace Reader

/-- The kinds of bracketed forms. -/
inductive Enclosure where
  /-- A list, in round brackets. -/
  | list
  /-- A block, in braces. -/
  | block
  deriving DecidableEq

/-- The brackets of a kind of form. -/
def Enclosure.bracket : Enclosure → Bracket
  | .list => .round
  | .block => .brace

/-- The items that a kind of form has in front of those that are written. -/
def Enclosure.head : Enclosure → List Value
  | .list => []
  | .block => [.symbol (text "do")]

/-- A token of a source text. -/
inductive Token where
  /-- A number. -/
  | number (n : Float)
  /-- A truth value. -/
  | truth (b : Bool)
  /-- A string with its contents. -/
  | string (contents : Text)
  /-- A symbol as it is spelled. -/
  | symbol (spelling : Text)
  /-- The bracket that opens a form. -/
  | opening (e : Enclosure)
  /-- The bracket that closes a form. -/
  | closing (e : Enclosure)

/-- The value of a token that is no bracket. -/
def Token.value? : Token → Option Value
  | .number n => some (.num n)
  | .truth b => some (.bool b)
  | .string contents => some (.str contents)
  | .symbol name => some (.symbol name)
  | .opening _ => none
  | .closing _ => none

/-- The characters in front of which a word ends, white space apart. -/
def wordEnds : List Char := ['(', ')', '[', ']', '\x7b', '\x7d', '<', '>', '\'']

/-- Whether a word ends in front of a rune: it is white space or one of the characters listed. -/
def endsWord (r : Rune) : Bool := r.isBlank || wordEnds.any fun c => r.isChar c

/-- Runes of which the first, if there is any, lacks a property. -/
def StopsAt (p : Rune → Bool) (rs : List Rune) : Prop := ∀ r ∈ rs.head?, p r = false

/-- Runes that begin like a number: an optional sign, an optional point and a digit. -/
def BeginsNumber (rs : List Rune) : Prop :=
  ∃ sign point digit rest, rs = sign ++ point ++ digit :: rest ∧
    (sign = [] ∨ sign = [.char '-']) ∧ (point = [] ∨ point = [.char '.']) ∧ isDigit digit = true

/-- The runes `written` begin like a number and hold, behind an optional sign, all digits and points
in front of the runes `behind`. -/
def IsNumeral (written behind : List Rune) : Prop :=
  BeginsNumber written ∧
  (∃ sign run, written = sign ++ run ∧ (sign = [] ∨ sign = [.char '-']) ∧
    ∀ r ∈ run, isNumeralRune r = true) ∧
  StopsAt isNumeralRune behind

/-- The spellings of the two truth values. -/
def truthSpellings (b : Bool) : List (List Rune) :=
  if b then [[.char '#', .char 't'], [.char '#', .char 'T']]
  else [[.char '#', .char 'f'], [.char '#', .char 'F']]

/-- The runes `written` in front of the runes `behind` are a token. Where several tokens could
begin, a number comes first, then a truth value, a string, a bracket and a symbol. Numbers and
symbols reach as far as they can. -/
inductive IsToken : (written behind : List Rune) → Token → Prop where
  | number {written behind : List Rune} {n : Float} :
    IsNumeral written behind → written.count (.char '.') ≤ 1 →
    Decimal.parse? (Text.ofRunes written) = some n → n.isInf = false →
    IsToken written behind (.number n)
  | truth {written behind : List Rune} {b : Bool} :
    written ∈ truthSpellings b → StopsAt (fun r => !endsWord r) behind →
    IsToken written behind (.truth b)
  | string {contents behind : List Rune} :
    .char '"' ∉ contents →
    IsToken (.char '"' :: contents ++ [.char '"']) behind (.string (Text.ofRunes contents))
  | opening {e : Enclosure} {behind : List Rune} :
    IsToken [.char e.bracket.opening] behind (.opening e)
  | closing {e : Enclosure} {behind : List Rune} :
    IsToken [.char e.bracket.closing] behind (.closing e)
  | symbol {written behind : List Rune} :
    written ≠ [] → (∀ r ∈ written, endsWord r = false) →
    StopsAt (fun r => !endsWord r) behind → ¬ BeginsNumber written →
    (∀ b, written ∉ truthSpellings b) → written.head? ≠ some (.char '"') →
    IsToken written behind (.symbol (Text.ofRunes written))

/-- The readers stop at the runes that end a word. -/
theorem isBoundary_eq_endsWord : isBoundary = endsWord := rfl

/-! ### Runs of runes -/

/-- A run that stops is all that `takeWhile` takes. -/
theorem takeWhile_append_of_stopsAt {p : Rune → Bool} {run behind : List Rune}
    (hrun : ∀ r ∈ run, p r = true) (hstop : StopsAt p behind) :
    (run ++ behind).takeWhile p = run := by
  rw [List.takeWhile_append_of_pos hrun]
  cases behind with
  | nil => simp
  | cons r rest => simp [hstop r (by simp)]

/-- What stands behind a run that stops is all that `dropWhile` leaves. -/
theorem dropWhile_append_of_stopsAt {p : Rune → Bool} {run behind : List Rune}
    (hrun : ∀ r ∈ run, p r = true) (hstop : StopsAt p behind) :
    (run ++ behind).dropWhile p = behind := by
  rw [List.dropWhile_append_of_pos hrun]
  cases behind with
  | nil => simp
  | cons r rest => simp [hstop r (by simp)]

/-- What `dropWhile` leaves begins with no further rune of the run. -/
theorem stopsAt_dropWhile (p : Rune → Bool) (rs : List Rune) : StopsAt p (rs.dropWhile p) := by
  intro r hr
  have hhead := List.head?_dropWhile_not p rs
  rw [Option.mem_def.mp hr] at hhead
  exact hhead

/-- A run is left where it stops. -/
theorem StopsAt.append {p : Rune → Bool} {rs more : List Rune} (h : StopsAt p rs) (hne : rs ≠ []) :
    StopsAt p (rs ++ more) := by
  cases rs with
  | nil => exact absurd rfl hne
  | cons r rest => exact h

/-! ### Numbers -/

/-- Whether runes without a sign begin like a number. -/
def beginsUnsigned : List Rune → Bool
  | [] => false
  | r :: rest => isDigit r || (r.isChar '.' && rest.head?.any isDigit)

/-- A sign is no digit. -/
theorem isDigit_minus : isDigit (.char '-') = false := by decide

/-- A point is no digit. -/
theorem isDigit_point : isDigit (.char '.') = false := by decide

/-- Without a sign, a number begins with a digit or with a point and a digit. -/
theorem beginsUnsigned_iff {rs : List Rune} :
    beginsUnsigned rs = true ↔ ∃ point digit rest, rs = point ++ digit :: rest ∧
      (point = [] ∨ point = [.char '.']) ∧ isDigit digit = true := by
  constructor
  · intro h
    cases rs with
    | nil => simp [beginsUnsigned] at h
    | cons r rest =>
      simp only [beginsUnsigned, Bool.or_eq_true, Bool.and_eq_true, Rune.isChar_iff] at h
      rcases h with hdigit | ⟨rfl, hnext⟩
      · exact ⟨[], r, rest, rfl, Or.inl rfl, hdigit⟩
      · cases rest with
        | nil => simp at hnext
        | cons digit rest => exact ⟨[.char '.'], digit, rest, rfl, Or.inr rfl, by simpa using hnext⟩
  · rintro ⟨point, digit, rest, rfl, rfl | rfl, hdigit⟩
    · simp [beginsUnsigned, hdigit]
    · simp [beginsUnsigned, hdigit]

/-- Behind a sign, a number begins as it does without one. -/
theorem beginsNumber_minus {rest : List Rune} :
    BeginsNumber (.char '-' :: rest) ↔ beginsUnsigned rest = true := by
  rw [beginsUnsigned_iff]
  constructor
  · rintro ⟨sign, point, digit, more, heq, rfl | rfl, hpoint, hdigit⟩
    · rcases hpoint with rfl | rfl
      · obtain ⟨rfl, -⟩ : Rune.char '-' = digit ∧ rest = more := by simpa using heq
        simp [isDigit_minus] at hdigit
      · simp at heq
    · exact ⟨point, digit, more, by simpa using heq, hpoint, hdigit⟩
  · rintro ⟨point, digit, more, rfl, hpoint, hdigit⟩
    exact ⟨[.char '-'], point, digit, more, by simp, Or.inr rfl, hpoint, hdigit⟩

/-- Runes without a sign begin like a number as they do without one. -/
theorem beginsNumber_of_ne_minus {rs : List Rune} (hsign : rs.head? ≠ some (.char '-')) :
    BeginsNumber rs ↔ beginsUnsigned rs = true := by
  rw [beginsUnsigned_iff]
  constructor
  · rintro ⟨sign, point, digit, more, rfl, rfl | rfl, hpoint, hdigit⟩
    · exact ⟨point, digit, more, by simp, hpoint, hdigit⟩
    · simp at hsign
  · rintro ⟨point, digit, more, rfl, hpoint, hdigit⟩
    exact ⟨[], point, digit, more, by simp, Or.inl rfl, hpoint, hdigit⟩

/-- Only the digits and points of a run decide whether it begins a number. -/
theorem beginsUnsigned_append {run behind : List Rune} (hstop : StopsAt isNumeralRune behind) :
    beginsUnsigned (run ++ behind) = beginsUnsigned run := by
  have hhead : behind.head?.any isDigit = false := by
    cases behind with
    | nil => rfl
    | cons r rest =>
      have hr := hstop r (by simp)
      simp only [isNumeralRune, Bool.or_eq_false_iff] at hr
      simpa using hr.1
  rcases run with _ | ⟨r, _ | ⟨next, run⟩⟩
  · cases behind with
    | nil => rfl
    | cons r rest =>
      have hr := hstop r (by simp)
      simp only [isNumeralRune, Bool.or_eq_false_iff] at hr
      simp [beginsUnsigned, hr.1, hr.2]
  · simp [beginsUnsigned, hhead]
  · rfl

/-- The digits and points in front decide whether runes begin a number. -/
theorem beginsUnsigned_takeWhile (rs : List Rune) :
    beginsUnsigned (rs.takeWhile isNumeralRune) = beginsUnsigned rs := by
  rw [← beginsUnsigned_append (stopsAt_dropWhile isNumeralRune rs), List.takeWhile_append_dropWhile]

/-- The test on the body of a numeral asks whether it begins a number. -/
theorem numeralBody_any_isDigit {body : List Rune} (hbody : ∀ r ∈ body, isNumeralRune r = true) :
    (if body.head?.any (fun r => r.isChar '.') then body.drop 1 else body).head?.any isDigit =
      beginsUnsigned body := by
  cases body with
  | nil => rfl
  | cons r body =>
    by_cases hpoint : r = .char '.'
    · subst hpoint
      simp [beginsUnsigned, isDigit_point, List.head?_eq_getElem?]
    · have hr := hbody r (by simp)
      simp_all [beginsUnsigned, isNumeralRune]

/-- Behind a sign, the number is the sign and all digits and points that follow. -/
theorem numeral?_minus (rest : List Rune) :
    numeral? (.char '-' :: rest) =
      if beginsUnsigned rest then some (.char '-' :: rest.takeWhile isNumeralRune) else none := by
  rw [← beginsUnsigned_takeWhile,
    ← numeralBody_any_isDigit fun r hr => List.mem_takeWhile_imp hr]
  simp [numeral?]

/-- Without a sign, the number is all digits and points in front. -/
theorem numeral?_of_ne_minus {rs : List Rune} (hsign : rs.head? ≠ some (.char '-')) :
    numeral? rs = if beginsUnsigned rs then some (rs.takeWhile isNumeralRune) else none := by
  have hnone : (rs.takeWhile fun r => r.isChar '-').take 1 = [] := by
    cases rs with
    | nil => rfl
    | cons r rest =>
      have hr : r ≠ .char '-' := by simpa using hsign
      simp [hr]
  rw [← beginsUnsigned_takeWhile,
    ← numeralBody_any_isDigit fun r hr => List.mem_takeWhile_imp hr]
  simp [numeral?, hnone]

/-- Runes that begin with a sign are the sign and the rest. -/
theorem eq_minus_cons {rs : List Rune} (hsign : rs.head? = some (.char '-')) :
    ∃ rest, rs = .char '-' :: rest := by
  cases rs with
  | nil => simp at hsign
  | cons r rest => exact ⟨rest, by simpa using hsign⟩

/-- A run of digits and points has no sign. -/
theorem head?_ne_minus {run : List Rune} (hrun : ∀ r ∈ run, isNumeralRune r = true) :
    run.head? ≠ some (.char '-') := by
  intro h
  obtain ⟨rest, rfl⟩ := eq_minus_cons h
  exact absurd (hrun (.char '-') (by simp)) (by decide)

/-- There is no number exactly where the runes do not begin like one. -/
theorem numeral?_eq_none_iff {rs : List Rune} : numeral? rs = none ↔ ¬ BeginsNumber rs := by
  by_cases hsign : rs.head? = some (.char '-')
  · obtain ⟨rest, rfl⟩ := eq_minus_cons hsign
    rw [numeral?_minus, beginsNumber_minus]
    split <;> simp_all
  · rw [numeral?_of_ne_minus hsign, beginsNumber_of_ne_minus hsign]
    split <;> simp_all

/-- The number that `numeral?` finds is the one that `IsNumeral` describes. -/
theorem numeral?_eq_some_iff {rs written : List Rune} :
    numeral? rs = some written ↔ ∃ behind, rs = written ++ behind ∧ IsNumeral written behind := by
  constructor
  · intro h
    by_cases hsign : rs.head? = some (.char '-')
    · obtain ⟨rest, rfl⟩ := eq_minus_cons hsign
      rw [numeral?_minus, Option.ite_none_right_eq_some, Option.some.injEq] at h
      obtain ⟨hbegins, rfl⟩ := h
      refine ⟨rest.dropWhile isNumeralRune, by simp, ?_, ?_, stopsAt_dropWhile _ _⟩
      · rwa [beginsNumber_minus, beginsUnsigned_takeWhile]
      · exact ⟨[.char '-'], _, rfl, Or.inr rfl, fun r hr => List.mem_takeWhile_imp hr⟩
    · rw [numeral?_of_ne_minus hsign, Option.ite_none_right_eq_some, Option.some.injEq] at h
      obtain ⟨hbegins, rfl⟩ := h
      have hrun : ∀ r ∈ rs.takeWhile isNumeralRune, isNumeralRune r = true :=
        fun r hr => List.mem_takeWhile_imp hr
      refine ⟨rs.dropWhile isNumeralRune, by simp, ?_, ⟨[], _, rfl, Or.inl rfl, hrun⟩,
        stopsAt_dropWhile _ _⟩
      rwa [beginsNumber_of_ne_minus (head?_ne_minus hrun), beginsUnsigned_takeWhile]
  · rintro ⟨behind, rfl, hbegins, ⟨sign, run, rfl, rfl | rfl, hrun⟩, hstop⟩
    · rw [List.nil_append] at hbegins ⊢
      rw [beginsNumber_of_ne_minus (head?_ne_minus hrun)] at hbegins
      have hsign : (run ++ behind).head? ≠ some (.char '-') := by
        cases run with
        | nil => simp [beginsUnsigned] at hbegins
        | cons r run => simpa using head?_ne_minus hrun
      rw [numeral?_of_ne_minus hsign, takeWhile_append_of_stopsAt hrun hstop,
        beginsUnsigned_append hstop, if_pos hbegins]
    · rw [List.singleton_append, beginsNumber_minus] at hbegins
      rw [List.singleton_append, List.cons_append, numeral?_minus,
        takeWhile_append_of_stopsAt hrun hstop, beginsUnsigned_append hstop, if_pos hbegins]

end Reader

end Lisplet
