import Lisplet.Proofs.Decimal.Notation
import Lisplet.Proofs.Reader.Place
import Lisplet.Proofs.Reader.Printing

/-!
# Reading the text of a number

The reader takes a number as far as its digits and points go and knows no exponents. A number that
is written positionally is read back from the whole of its text. Of any other number it reads the
numeral in front of the exponent, which denotes a different number, and it takes the exponent for a
symbol.
-/

namespace Lisplet.Reader

/-- A number at the front of an input is read, and the input behind it is left. -/
theorem expression_number {i : Input} {written behind : List Rune} {n : Float}
    (hi : i.rest = written ++ behind) (h : IsToken written behind (.number n)) :
    expression i = .ok (.num n, ⟨i.place.afterAll written, behind⟩) := by
  cases h with
  | number hnumeral hpoints hparse hinf =>
    have hnumber : number i = .ok (.num n, ⟨i.place.afterAll written, behind⟩) := by
      have hfound : numeral? i.rest = some written :=
        numeral?_eq_some_iff.mpr ⟨behind, hi, hnumeral⟩
      have hcount : ¬ 1 < written.countP (fun r => r.isChar '.') := not_lt.mpr hpoints
      simp only [number, hfound, if_neg hcount, hparse, Option.getD_some, hinf]
      simp [hi]
    obtain ⟨r, rest, hrest⟩ : ∃ r rest, i.rest = r :: rest := by
      obtain ⟨front, more, rfl, hne, -⟩ := hnumeral.1.front
      obtain ⟨r, front, rfl⟩ := List.exists_cons_of_ne_nil hne
      exact ⟨r, _, hi⟩
    have hboundary : endsWord r = false := by
      have hbegins := hnumeral.1.append behind
      rw [← hi, hrest] at hbegins
      exact hbegins.head.1
    have hfront : StopsAt Rune.isBlank i.rest := by
      rw [endsWord, Bool.or_eq_false_iff] at hboundary
      simpa [hrest, StopsAt] using hboundary.1
    have hround : r ≠ .char ')' := by
      rintro rfl
      exact absurd hboundary (by decide)
    have hbrace : r ≠ .char '\x7d' := by
      rintro rfl
      exact absurd hboundary (by decide)
    rw [expression, skipBlanks_eq_self hfront]
    simp only [hrest, Rune.isChar_iff, if_neg hround, if_neg hbrace]
    rw [form, formWithin, productions, firstOf, hnumber]

/-- A reader that finds a number at the start of a source stands behind it afterwards. -/
theorem read_number {written behind : Text} {n : Float}
    (hrunes : (written ++ behind).runes = written.runes ++ behind.runes)
    (h : IsToken written.runes behind.runes (.number n)) :
    ∃ r, Reader.new.read (written ++ behind) = (.ok (.num n), r) ∧
      r.place.offset = written.length := by
  have hinput : Reader.new.input (written ++ behind) =
      ⟨.start, written.runes ++ behind.runes⟩ := by
    rw [← hrunes]
    rfl
  refine ⟨⟨Position.start.afterAll written.runes⟩, ?_, ?_⟩
  · rw [read, expression_number (by rw [hinput]) h, hinput]
  · rw [Position.offset_afterAll, Text.ofRunes_runes]
    exact Nat.zero_add _

/-! ### Exponents -/

section Exponent

open Decimal

/-- The number of an exponent is written in digits, with zeros in front if it is short. -/
theorem allDigits_exponent (e : Int) :
    AllDigits (zeros (2 - (Text.ofNat e.natAbs).length) ++ Text.ofNat e.natAbs) :=
  (allDigits_zeros _).append (allDigits_ofNat _)

/-- An exponent is a sign and digits. -/
theorem exists_exponentText (e : Int) :
    ∃ sign digits, exponentText e = sign :: digits ∧ (sign = 43 ∨ sign = 45) ∧
      AllDigits digits := by
  have hminus : text "-" = [45] := rfl
  have hplus : text "+" = [43] := rfl
  simp only [exponentText, hminus, hplus]
  split_ifs
  · exact ⟨45, _, by simp, Or.inr rfl, allDigits_exponent e⟩
  · exact ⟨43, _, by simp, Or.inl rfl, allDigits_exponent e⟩

/-- An exponent and its letter are written in ASCII, without a boundary. -/
theorem mem_exponent {e : Int} {b : UInt8} (hb : b ∈ text "e" ++ exponentText e) :
    b < 0x80 ∧ endsWord (.char (Char.ofNat b.toNat)) = false := by
  obtain ⟨sign, digits, hexponent, hsign, hdigits⟩ := exists_exponentText e
  have hmark : text "e" = [101] := rfl
  rw [hexponent, hmark, List.singleton_append, List.mem_cons, List.mem_cons] at hb
  rcases hb with rfl | rfl | hb
  · decide
  · rcases hsign with rfl | rfl <;> decide
  · obtain ⟨hascii, hdigit⟩ := isDigit_of_byte (hdigits b hb)
    exact ⟨hascii, endsWord_of_isDigit hdigit⟩

/-- The runes of an exponent are its letter and those behind it. -/
theorem runes_exponent (e : Int) :
    (text "e" ++ exponentText e).runes = .char 'e' :: (exponentText e).runes :=
  Text.runes_cons_ascii (by decide) _

/-- An exponent and its letter are the name of a symbol. -/
theorem isReadableName_exponent (e : Int) : IsReadableName (text "e" ++ exponentText e) := by
  have hascii : ∀ b ∈ text "e" ++ exponentText e, b < 0x80 := fun b hb => (mem_exponent hb).1
  refine ⟨?_, List.append_ne_nil_of_left_ne_nil (by decide) _, ?_, ?_, ?_, ?_⟩
  · rw [Text.nfc, if_pos (by simpa only [List.all_eq_true, decide_eq_true_eq] using hascii)]
  · intro r hr
    rw [Text.runes_ascii hascii] at hr
    obtain ⟨b, hb, rfl⟩ := List.mem_map.mp hr
    exact (mem_exponent hb).2
  · simp [runes_exponent]
  · have hletter : isDigit (.char 'e') = false := by decide
    rw [runes_exponent, beginsNumber_of_ne_minus (by simp)]
    simp [beginsUnsigned, hletter]
  · intro b
    rw [runes_exponent]
    cases b <;> simp [truthSpellings]

/-- The letter of an exponent ends a numeral. -/
theorem runes_append_exponent (t : Text) (e : Int) :
    (t ++ (text "e" ++ exponentText e)).runes =
        t.runes ++ (text "e" ++ exponentText e).runes ∧
      StopsAt isNumeralRune (text "e" ++ exponentText e).runes := by
  refine ⟨Text.runes_append_of_not_isTail t (by decide) (exponentText e), ?_⟩
  intro r hr
  rw [runes_exponent] at hr
  obtain rfl := Option.some.inj hr
  decide

/-- The text of a number with an exponent is read as two values. -/
theorem parseAll_exponent {mantissa : Text} {m : Float} (e : Int)
    (h : IsToken mantissa.runes (text "e" ++ exponentText e).runes (.number m)) :
    parseAll (mantissa ++ (text "e" ++ exponentText e)) =
      .ok [.num m, .sym (text "e" ++ exponentText e)] := by
  have hname := isReadableName_exponent e
  have hend : StopsAt (fun r => !endsWord r) [] := by simp [StopsAt]
  have hvalue : (Token.symbol (text "e" ++ exponentText e)).value? =
      some (.sym (text "e" ++ exponentText e)) := by
    simp [Token.value?, Value.symbol, hname.canonical]
  have hlex := lex_of_isToken (hname.isToken hend)
  rw [List.append_nil] at hlex
  rw [parseAll_eq_ok_iff_verdict, (runes_append_exponent mantissa e).1,
    verdict_leaf (lex_of_isToken h) rfl (by simp), verdict_leaf hlex hvalue (by simp),
    verdict_of_blank no_blanks]
  rfl

end Exponent

/-! ### The text of a number -/

open Decimal (sourceText exponentText IsPositional Width)

/-- A positional number is read back, and nothing of its text is left. -/
theorem read_positional {n : Float} (hfinite : n.isFinite = true) (h : IsPositional n) :
    ∃ r, Reader.new.read (sourceText n) = (.ok (.num n), r) ∧ r.atEnd (sourceText n) = true := by
  have hexponent : 101 ∉ sourceText n := fun hmem => (Decimal.mem_sourceText_iff hfinite).mp hmem h
  have hend : StopsAt (fun r => !endsWord r) (Text.runes []) := by simp [StopsAt]
  obtain ⟨r, hread, hplace⟩ := read_number (by simp) (isToken_sourceText hfinite hexponent hend)
  rw [List.append_nil] at hread
  exact ⟨r, hread, by simp [atEnd, hplace]⟩

/-- The numeral in front of an exponent is read as a number of its own, the exponent as a symbol. -/
theorem read_scientific {n : Float} (hfinite : n.isFinite = true) (h : ¬ IsPositional n) :
    ∃ mantissa e m r, sourceText n = mantissa ++ (text "e" ++ exponentText e) ∧
      Reader.new.read (sourceText n) = (.ok (.num m), r) ∧ r.place.offset = mantissa.length ∧
      m ≠ n ∧ parseAll (sourceText n) = .ok [.num m, .sym (text "e" ++ exponentText e)] := by
  obtain ⟨negative, whole, fraction, e, m, htext, hwhole, hne, hfraction, hparse, hinf, hother⟩ :=
    Decimal.exists_exponent_sourceText hfinite ((Decimal.mem_sourceText_iff hfinite).mpr h)
  obtain ⟨hrunes, hstop⟩ := runes_append_exponent (Decimal.numeralText negative whole fraction) e
  have htoken := isToken_numeralText hwhole hfraction negative hne hstop hparse hinf
  obtain ⟨r, hread, hplace⟩ := read_number hrunes htoken
  rw [htext]
  exact ⟨_, e, m, r, rfl, hread, hplace, hother, parseAll_exponent e htoken⟩

/-- A finite number is read back from the whole of its text exactly if it is a whole number below
ten to the fifteenth or one from 0.0001 up to a million. From the text of any other number a
different number is read, and the exponent is left over as a symbol. -/
theorem read_sourceText_iff {n : Float} (hfinite : n.isFinite = true) :
    ((∃ r, Reader.new.read (sourceText n) = (.ok (.num n), r) ∧
        r.atEnd (sourceText n) = true) ↔ IsPositional n) ∧
    (¬ IsPositional n → ∃ mantissa e m r,
      sourceText n = mantissa ++ (text "e" ++ exponentText e) ∧
      Reader.new.read (sourceText n) = (.ok (.num m), r) ∧ r.place.offset = mantissa.length ∧
      m ≠ n ∧ parseAll (sourceText n) = .ok [.num m, .sym (text "e" ++ exponentText e)]) := by
  refine ⟨⟨?_, read_positional hfinite⟩, read_scientific hfinite⟩
  rintro ⟨r, hread, -⟩
  by_contra hpositional
  obtain ⟨-, -, m, r', -, hread', -, hother, -⟩ := read_scientific hfinite hpositional
  rw [hread', Prod.mk.injEq, Except.ok.injEq, Value.num.injEq] at hread
  exact hother hread.1

/-- The least number that is written positionally although it is not whole. -/
theorem read_sourceText_iff_least :
    (0.0001 : Float).isFinite = true ∧
      ∃ r, Reader.new.read (sourceText 0.0001) = (.ok (.num 0.0001), r) ∧
        r.atEnd (sourceText 0.0001) = true := by
  have hbits : Width.double.nearestDecimal 1 (-4) < Width.double.nearestDecimal 1 6 := by
    decide +kernel
  have hbelow : Decimal.absolute 0.0001 < 10 ^ 6 := by
    rw [Decimal.absolute_least, ← Decimal.value_million]
    exact Width.value_double_strictMono hbits
  exact ⟨by decide, (read_sourceText_iff (by decide)).1.mpr (Or.inr ⟨le_rfl, hbelow⟩)⟩

/-- Ten to the fifteenth is read from its digits, but it is written with an exponent. From that text
the number one is read, and the reader stops in front of the exponent. -/
theorem read_sourceText_power :
    parse (text "1000000000000000") = .ok (.num 1000000000000000) ∧
      sourceText 1000000000000000 = text "1e+15" ∧
      Reader.new.read (text "1e+15") = (.ok (.num 1), ⟨⟨1, 1, 2⟩⟩) ∧
      (⟨⟨1, 1, 2⟩⟩ : Reader).atEnd (text "1e+15") = false ∧
      (1 : Float) ≠ 1000000000000000 := by
  refine ⟨?_, by decide +kernel, ?_, by decide, ?_⟩
  · rfl
  · rfl
  · decide +kernel

end Lisplet.Reader
