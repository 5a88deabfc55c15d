import Lisplet.Proofs.Reader.Continuation

/-!
# Sources in parts

White space at the ends of a source is of no account. A source that is cut at a line break, where
the text so far can be read, has the forms of the two parts.
-/

namespace Lisplet

namespace Text

/-- Without the white space in front, a text is its trimmed text and white space. -/
theorem dropWhile_runes (t : Text) :
    ∃ back, t.runes.dropWhile Rune.isBlank = t.trim.runes ++ back ∧
      ∀ r ∈ back, r.isBlank = true := by
  have hfront : t.runes = t.runes.takeWhile Rune.isBlank ++ t.runes.dropWhile Rune.isBlank :=
    List.takeWhile_append_dropWhile.symm
  have hback : t.runes.dropWhile Rune.isBlank =
      ((t.runes.dropWhile Rune.isBlank).reverse.dropWhile Rune.isBlank).reverse ++
        ((t.runes.dropWhile Rune.isBlank).reverse.takeWhile Rune.isBlank).reverse := by
    rw [← List.reverse_append, List.takeWhile_append_dropWhile, List.reverse_reverse]
  have htrim : t.trim.runes =
      ((t.runes.dropWhile Rune.isBlank).reverse.dropWhile Rune.isBlank).reverse :=
    runes_ofRunes_front ((runes_ofRunes_back hfront).trans hback)
  refine ⟨_, hback.trans (by rw [htrim]), ?_⟩
  intro r hr
  exact List.mem_takeWhile_imp (List.mem_reverse.mp hr)

/-- Without the white space in front, a text begins as its trimmed text does. -/
theorem head?_runes_trim (t : Text) :
    t.trim.runes.head? = (t.runes.dropWhile Rune.isBlank).head? := by
  obtain ⟨back, hdrop, hback⟩ := t.dropWhile_runes
  have hstops := Reader.stopsAt_dropWhile Rune.isBlank t.runes
  rw [hdrop] at hstops ⊢
  cases htrim : t.trim.runes with
  | cons r rest => rfl
  | nil =>
    cases back with
    | nil => rfl
    | cons r rest =>
      have hnot : r.isBlank = false := hstops r (by simp [htrim])
      rw [hback r (by simp)] at hnot
      cases hnot

end Text

end Lisplet

namespace Lisplet.Reader

/-! ### White space at the ends -/

/-- White space in front of a source does not change the verdict. -/
theorem verdict_blanks_append {blanks : List Rune} (hblanks : ∀ r ∈ blanks, r.isBlank = true)
    (rs : List Rune) (st : Nesting) : verdict st (blanks ++ rs) = verdict st rs := by
  induction blanks with
  | nil => rfl
  | cons c blanks ih =>
    rw [List.cons_append, verdict_cons_blank (hblanks c (by simp)),
      ih fun r hr => hblanks r (by simp [hr])]

/-- White space behind a string that has no end belongs to that string. -/
theorem scan_append_blanks_of_unterminated {rs : List Rune}
    (h : (scan rs).ending = .unterminated) {blanks : List Rune}
    (hblanks : ∀ r ∈ blanks, r.isBlank = true) : scan (rs ++ blanks) = scan rs := by
  obtain ⟨before, contents, hbefore, hcontents, hscan⟩ := scan_append_of_unterminated h
  have hquote : .char '"' ∉ contents ++ blanks := by
    intro hmem
    rcases List.mem_append.mp hmem with hmem | hmem
    · exact hcontents hmem
    · exact absurd (hblanks _ hmem) (by decide)
  have hlex : lex (.char '"' :: (contents ++ blanks)) = .unterminated := by
    rw [lex_quote, lexString_of_not_mem hquote]
  have hopen : scan (before ++ .char '"' :: (contents ++ blanks)) = ⟨[], .unterminated⟩ := by
    have hstops : StopsAt Rune.isBlank (.char '"' :: (contents ++ blanks)) := by
      intro r hr
      cases hr
      decide
    rw [scan_append hbefore hstops (by simp), hlex]
  rw [hscan, hopen, List.append_nil, ← h]

/-- White space behind a source does not change the verdict. -/
theorem verdict_append_blanks (rs : List Rune) {blanks : List Rune}
    (hblanks : ∀ r ∈ blanks, r.isBlank = true) (st : Nesting) :
    verdict st (rs ++ blanks) = verdict st rs := by
  have hrefused : verdict st rs = .refused → verdict st (rs ++ blanks) = verdict st rs := by
    intro h
    have hnone : AllStray [] := by simp [AllStray]
    rw [h, verdict_refused_append hnone (by rwa [List.append_nil])]
  cases hsettle : settle st (scan rs).lexemes with
  | none => exact hrefused (by rw [verdict, Scan.verdict, hsettle])
  | some st' =>
    cases hending : (scan rs).ending with
    | refused => exact hrefused (by rw [verdict, Scan.verdict, hsettle, hending])
    | unterminated =>
      rw [verdict, scan_append_blanks_of_unterminated hending hblanks]
      rfl
    | complete =>
      cases blanks with
      | nil => rw [List.append_nil]
      | cons c more =>
        rw [verdict_separated hending hsettle (hblanks c (by simp)),
          verdict_of_blank fun r hr => hblanks r (by simp [hr]), verdict, Scan.verdict, hsettle,
          hending]

/-- Trimming does not change the verdict. -/
theorem verdict_trim (t : Text) (st : Nesting) : verdict st t.trim.runes = verdict st t.runes := by
  obtain ⟨back, hdrop, hback⟩ := t.dropWhile_runes
  have hfront : ∀ r ∈ t.runes.takeWhile Rune.isBlank, r.isBlank = true :=
    fun _ hr => List.mem_takeWhile_imp hr
  rw [← verdict_append_blanks _ hback, ← hdrop, ← verdict_blanks_append hfront,
    List.takeWhile_append_dropWhile]

end Lisplet.Reader
