import Lisplet.Proofs.Reader.Continuation

/-!
# Sources in brackets

A closing bracket ends every token, so a source that can be read has the same lexemes in front of
one. Between brackets it is therefore read as a single list of its forms, whatever it ends with.
-/

namespace Lisplet.Reader

/-- The source text of a bracketed form with given contents. -/
def Enclosure.around (e : Enclosure) (contents : Text) : Text :=
  Rune.bytes (.char e.bracket.opening) ++ contents ++ Rune.bytes (.char e.bracket.closing)

/-- The contents are decoded apart from the brackets, even if they end within a character. -/
theorem Enclosure.runes_around (e : Enclosure) (contents : Text) :
    (e.around contents).runes =
      .char e.bracket.opening :: (contents.runes ++ [.char e.bracket.closing]) := by
  cases e with
  | list =>
    have hopening : Enclosure.list.around contents = 40 :: (contents ++ 41 :: []) := rfl
    rw [hopening, Text.runes_cons_ascii (by decide), Text.runes_append_ascii _ (by decide)]
    rfl
  | block =>
    have hopening : Enclosure.block.around contents = 123 :: (contents ++ 125 :: []) := rfl
    rw [hopening, Text.runes_cons_ascii (by decide), Text.runes_append_ascii _ (by decide)]
    rfl

/-- A closing bracket is a boundary. -/
theorem stopsAt_closing (e : Enclosure) (rest : List Rune) :
    StopsAt (fun r => !endsWord r) (.char e.bracket.closing :: rest) := by
  intro r hr
  obtain rfl := Option.some.inj hr
  cases e <;> decide

/-- In front of a closing bracket a text is split as on its own. -/
theorem Lexes.append_closing {rs rest : List Rune} {ls more : List Lexeme} (h : Lexes rs ls)
    (hrest : Lexes rest more) (e : Enclosure) :
    ∃ spaced, Lexes (rs ++ .char e.bracket.closing :: rest)
      (ls ++ ⟨spaced, .closing e⟩ :: more) := by
  induction h with
  | @blank rs hblank => exact ⟨!rs.isEmpty, .token hblank .closing hrest⟩
  | @token blanks written behind t ls hblanks htoken _ ih =>
    obtain ⟨spaced, hlexes⟩ := ih
    have htoken' : IsToken written (behind ++ .char e.bracket.closing :: rest) t :=
      htoken.append fun _ => stopsAt_closing e rest
    refine ⟨spaced, ?_⟩
    have hall := Lexes.token hblanks htoken' hlexes
    simpa using hall

/-- An opening bracket in front of a text is split off. -/
theorem Lexes.cons_opening {rs : List Rune} {ls : List Lexeme} (h : Lexes rs ls) (e : Enclosure) :
    Lexes (.char e.bracket.opening :: rs) (⟨false, .opening e⟩ :: ls) :=
  Lexes.token no_blanks .opening h

/-- In brackets a source is read as one list of its forms. -/
theorem parseAll_around {contents : Text} {forms : List Value} (h : parseAll contents = .ok forms)
    (e : Enclosure) : parseAll (e.around contents) = .ok [.list (e.head ++ forms)] := by
  rw [parseAll_eq_ok_iff_verdict, verdict_eq_forms_iff] at h ⊢
  obtain ⟨spaced, hclosing⟩ := (lexes_scan h.1).append_closing (.blank no_blanks) e
  have hlexes := hclosing.cons_opening e
  rw [e.runes_around, hlexes.scan_eq]
  exact ⟨rfl, forest_iff.mp (.enclosed (forest_iff.mpr h.2) .nil)⟩

/-- White space in front of an expression is skipped once and for all. -/
theorem expression_skipBlanks (i : Input) : expression i.skipBlanks = expression i := by
  obtain ⟨_, -, -, hfront⟩ := skipBlanks_spec i
  rw [expression, expression, skipBlanks_eq_self hfront]

/-- The first of all forms of a source is the one that is read on its own. -/
theorem parse_of_parseAll {source : Text} {v : Value} {vs : List Value}
    (h : parseAll source = .ok (v :: vs)) : parse source = .ok v := by
  simp only [parseAll, parseForms, readAll, expressions] at h
  generalize hi : Reader.new.input source = i at h
  have hparse : parse source = (expression i).map Prod.fst := by
    rw [parse, read, hi]
    cases expression i <;> rfl
  cases hlength : i.rest.length with
  | zero => simp [hlength, expressionsFrom] at h
  | succ fuel =>
    rw [hlength, expressionsFrom] at h
    by_cases hend : i.skipBlanks.atEnd = true
    · simp [hend] at h
    · simp only [if_neg hend, expression_skipBlanks] at h
      cases hexpression : expression i with
      | error e => simp [hexpression] at h
      | ok read =>
        obtain ⟨v', behind⟩ := read
        cases herror : (expressionsFrom fuel behind).error with
        | some e => simp [hexpression, herror] at h
        | none =>
          simp only [hexpression, herror, Except.ok.injEq, List.cons.injEq] at h
          rw [hparse, hexpression, ← h.1]
          rfl

end Lisplet.Reader
