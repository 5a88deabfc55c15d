import Lisplet.Printer
import Mathlib.Data.List.Induction
import Mathlib.Tactic.SplitIfs

/-!
# What the printer writes

Printing a text is printing its bytes one after the other, so it does not matter how the text is cut
into pieces. What is written is the text with the margin in front of each line that begins in it,
empty lines apart. A printer whose margin does not fit into memory is stuck as soon as a line begins
that is not empty.
-/

namespace Lisplet

/-! ### Lines of a text -/

namespace Text

/-- A text with a margin in front of each line that begins in it, empty lines apart. Whether the
first line has begun before the text is told. -/
def indented (margin : Text) : (begun : Bool) → Text → Text
  | _, [] => []
  | begun, b :: rest =>
    if b = newline then b :: indented margin false rest
    else if begun then b :: indented margin true rest
    else margin ++ b :: indented margin true rest

/-- How many bytes the last line has behind a text, if the line had some before it. -/
def columnAfter : (column : Nat) → Text → Nat
  | column, [] => column
  | column, b :: rest => columnAfter (if b = newline then 0 else column + 1) rest

/-- A text that begins and ends within a line. -/
structure Upright (t : Text) : Prop where
  /-- The text begins a line, and does not end it at once. -/
  head : ∃ b rest, t = b :: rest ∧ b ≠ newline
  /-- The text does not end a line. -/
  last : t.getLast? ≠ some newline

variable {margin : Text}

/-- A text that is not empty and has no line end begins and ends within a line. -/
theorem upright_of_not_mem {t : Text} (hne : t ≠ []) (h : newline ∉ t) : t.Upright := by
  obtain ⟨b, rest, rfl⟩ := List.exists_cons_of_ne_nil hne
  refine ⟨⟨b, rest, rfl, ?_⟩, fun hlast => h (List.mem_of_getLast? hlast)⟩
  rintro rfl
  exact h (by simp)

/-- The length of the last line is counted through both parts of a text. -/
theorem columnAfter_append (column : Nat) (s t : Text) :
    columnAfter column (s ++ t) = columnAfter (columnAfter column s) t := by
  induction s generalizing column with
  | nil => rfl
  | cons b s ih => simp only [List.cons_append, columnAfter, ih]

/-- A line has begun unless the text ends with a line end. -/
theorem columnAfter_eq_zero_iff (column : Nat) (t : Text) :
    columnAfter column t = 0 ↔ (t = [] ∧ column = 0) ∨ t.getLast? = some newline := by
  induction t using List.reverseRecOn with
  | nil => simp [columnAfter]
  | append_singleton t b _ =>
    rw [columnAfter_append]
    by_cases hb : b = newline <;> simp [columnAfter, hb]

/-- A text that goes on is indented from where it stands. -/
theorem indented_append (margin : Text) (column : Nat) (s t : Text) :
    indented margin (column != 0) (s ++ t) =
      indented margin (column != 0) s ++ indented margin (columnAfter column s != 0) t := by
  induction s generalizing column with
  | nil => simp [indented, columnAfter]
  | cons b s ih =>
    by_cases hb : b = newline
    · simpa [indented, columnAfter, hb] using ih 0
    · have hbegun := ih (column + 1)
      cases hcolumn : column != 0 <;> simp_all [indented, columnAfter]

/-- The margin stands in front of a text whose first line has not begun. -/
theorem Upright.indented_false {t : Text} (h : t.Upright) :
    indented margin false t = margin ++ indented margin true t := by
  obtain ⟨b, rest, rfl, hb⟩ := h.head
  simp [indented, hb]

/-- Behind a text that ends within a line, the line has begun. -/
theorem indented_append_of_last {s : Text} (hlast : s.getLast? ≠ some newline) (t : Text) :
    indented margin true (s ++ t) = indented margin true s ++ indented margin true t := by
  have hcolumn : columnAfter 1 s ≠ 0 := by simp [columnAfter_eq_zero_iff, hlast]
  have happend := indented_append margin 1 s t
  have hbegun : (columnAfter 1 s != 0) = true := by simpa using hcolumn
  rwa [hbegun] at happend

/-- A text without line ends is not changed within a line. -/
theorem indented_of_not_mem {t : Text} (h : newline ∉ t) : indented margin true t = t := by
  induction t with
  | nil => rfl
  | cons b t ih =>
    rw [List.mem_cons, not_or] at h
    simp [indented, ih h.2, Ne.symm h.1]

/-- Nothing but margins is put into a text. -/
theorem mem_or_mem_of_mem_indented {t : Text} {begun : Bool} {b : UInt8}
    (h : b ∈ indented margin begun t) : b ∈ t ∨ b ∈ margin := by
  induction t generalizing begun with
  | nil => cases h
  | cons c t ih =>
    rw [indented] at h
    split_ifs at h <;> simp only [List.mem_cons, List.mem_append] at h ⊢
    · rcases h with rfl | h
      · simp
      · rcases ih h with h | h <;> simp [h]
    · rcases h with rfl | h
      · simp
      · rcases ih h with h | h <;> simp [h]
    · rcases h with h | rfl | h
      · simp [h]
      · simp
      · rcases ih h with h | h <;> simp [h]

/-- A text is split into one part at least. -/
theorem splitOn_ne_nil (mark : UInt8) (t : Text) : t.splitOn mark ≠ [] := by
  induction t with
  | nil => simp [splitOn]
  | cons b t ih =>
    rw [splitOn]
    split_ifs
    · simp
    · split <;> simp

/-- The blanks in front of a line at some level. -/
def marginAt (level : Nat) : Text := List.replicate (2 * level) blank

end Text

namespace Printer

/-! ### Printing byte by byte -/

/-- What is printed next can be grouped in either way. -/
theorem andThen_assoc (x : Printed) (f g : Printer → Printed) :
    (x.andThen f).andThen g = x.andThen fun p => (f p).andThen g := by
  cases x <;> rfl

/-- A piece of a line is printed byte by byte. -/
theorem printPiece_cons (b : UInt8) (piece : Text) (p : Printer) :
    p.printPiece (b :: piece) = (p.printPiece [b]).andThen (printPiece piece) := by
  by_cases hcolumn : p.column = 0
  · cases herror : p.marginError? with
    | some why => simp [printPiece, hcolumn, herror, Printed.andThen]
    | none =>
      simp [printPiece, hcolumn, herror, Printed.andThen, emit, Nat.add_comm]
  · simp [printPiece, hcolumn, Printed.andThen, emit, Nat.add_comm, Nat.add_left_comm]

/-- The first byte of several lines is printed on its own. -/
theorem printLines_cons (b : UInt8) (piece : Text) (pieces : List Text) (p : Printer) :
    printLines ((b :: piece) :: pieces) p =
      (p.printPiece [b]).andThen (printLines (piece :: pieces)) := by
  cases pieces with
  | nil => exact printPiece_cons b piece p
  | cons next pieces =>
    rw [printLines, printPiece_cons, andThen_assoc]
    · rfl
    · simp

/-- An empty piece changes nothing. -/
@[simp] theorem printPiece_nil (p : Printer) : p.printPiece [] = .done p := by
  simp [printPiece, emit]

/-- An empty text changes nothing. -/
@[simp] theorem print_nil (p : Printer) : p.print [] = .done p := printPiece_nil p

/-- A line end begins a new line. -/
theorem print_newline_cons (t : Text) (p : Printer) :
    p.print (Text.newline :: t) = p.endLine.print t := by
  obtain ⟨piece, pieces, hpieces⟩ := List.exists_cons_of_ne_nil (Text.splitOn_ne_nil Text.newline t)
  rw [print, print, Text.splitOn, if_pos (by simp), hpieces, printLines, printPiece_nil]
  · rfl
  · simp

/-- Any other byte is a piece of a line. -/
theorem print_cons {b : UInt8} (hb : b ≠ Text.newline) (t : Text) (p : Printer) :
    p.print (b :: t) = (p.printPiece [b]).andThen (print t) := by
  obtain ⟨piece, pieces, hpieces⟩ := List.exists_cons_of_ne_nil (Text.splitOn_ne_nil Text.newline t)
  have hsplit : Text.splitOn Text.newline (b :: t) = (b :: piece) :: pieces := by
    rw [Text.splitOn, if_neg (by simpa using hb), hpieces]
  have hrest : print t = printLines (piece :: pieces) := by
    funext q
    rw [print, hpieces]
  rw [print, hsplit, printLines_cons, hrest]

/-- A piece of a line is written at the level of the printer. -/
theorem level_printPiece {piece : Text} {p q : Printer} (h : p.printPiece piece = .done q) :
    q.level = p.level := by
  rw [printPiece] at h
  split_ifs at h
  · cases hmargin : p.marginError? with
    | none =>
      rw [hmargin] at h
      cases h
      rfl
    | some why =>
      rw [hmargin] at h
      cases h
  · cases h
    rfl

/-- Only the level decides whether a line can be indented. -/
theorem marginError?_of_level {p q : Printer} (h : q.level = p.level) :
    q.marginError? = p.marginError? := by
  rw [marginError?, marginError?, h]

/-- A printer whose margin fits writes the text indented. -/
theorem print_eq {p : Printer} (hmargin : p.marginError? = none) (t : Text) :
    p.print t = .done ⟨p.level, Text.columnAfter p.column t,
      (Text.indented p.margin (p.column != 0) t).reverse ++ p.written⟩ := by
  induction t generalizing p with
  | nil => exact print_nil p
  | cons b t ih =>
    by_cases hb : b = Text.newline
    · have hline := ih (p := p.endLine) hmargin
      subst hb
      rw [print_newline_cons, hline]
      simp [Text.columnAfter, Text.indented, endLine, emit, margin]
    · rw [print_cons hb]
      by_cases hcolumn : p.column = 0
      · have hpiece : p.printPiece [b] =
            .done ⟨p.level, 1, b :: (p.margin.reverse ++ p.written)⟩ := by
          simp [printPiece, hcolumn, hmargin, emit]
        have hrest := ih (p := ⟨p.level, 1, b :: (p.margin.reverse ++ p.written)⟩) hmargin
        rw [hpiece, Printed.andThen, hrest]
        simp [Text.columnAfter, Text.indented, hb, hcolumn, margin]
      · have hpiece : p.printPiece [b] = .done ⟨p.level, p.column + 1, b :: p.written⟩ := by
          simp [printPiece, hcolumn, emit]
        have hrest := ih (p := ⟨p.level, p.column + 1, b :: p.written⟩) hmargin
        rw [hpiece, Printed.andThen, hrest]
        simp [Text.columnAfter, Text.indented, hb, hcolumn, margin]

/-- A text without line ends is a piece of a line. -/
theorem print_eq_printPiece {t : Text} (hline : Text.newline ∉ t) (p : Printer) :
    p.print t = p.printPiece t := by
  induction t generalizing p with
  | nil => exact (print_nil p).trans (printPiece_nil p).symm
  | cons b t ih =>
    rw [List.mem_cons, not_or] at hline
    rw [print_cons (Ne.symm hline.1), printPiece_cons b t, funext (ih hline.2)]

/-! ### Margins -/

/-- A line can be indented at the levels from zero to that of the widest margin. -/
theorem marginError?_eq_none_iff {p : Printer} :
    p.marginError? = none ↔ 0 ≤ p.level ∧ 2 * p.level ≤ widestMargin := by
  rw [marginError?]
  split_ifs with hnegative hfits hword
  · exact iff_of_false (by simp) (by omega)
  · exact iff_of_true rfl ⟨by omega, hfits⟩
  · exact iff_of_false (by simp) (by omega)
  · exact iff_of_false (by simp) (by omega)

/-- The margin of a printer at some level. -/
theorem margin_eq {p : Printer} {level : Nat} (hlevel : p.level = level) :
    p.margin = Text.marginAt level := by
  rw [margin, hlevel]
  rfl

/-- The margin that is still to be written in the current line. -/
def lead (p : Printer) : Text := if p.column = 0 then p.margin else []

/-- Nothing is left of the margin of a line that has begun. -/
theorem lead_of_begun {p : Printer} (hbegun : p.column ≠ 0) : p.lead = [] := if_neg hbegun

/-- A line that cannot be indented cannot begin. -/
theorem print_stuck {t : Text} (ht : t.Upright) {p : Printer} (hcolumn : p.column = 0)
    {why : MarginError} (hmargin : p.marginError? = some why) : p.print t = .stuck p why := by
  obtain ⟨b, rest, rfl, hb⟩ := ht.head
  rw [print_cons hb, printPiece, if_pos ⟨hcolumn, List.cons_ne_nil b []⟩, hmargin]
  rfl

/-- A text with a line end is stuck at the line behind it, unless that is empty. -/
theorem exists_stuck {t : Text} (hline : Text.newline ∈ t) (hlast : t.getLast? ≠ some Text.newline)
    {p : Printer} {why : MarginError} (hmargin : p.marginError? = some why) :
    ∃ q why, p.print t = .stuck q why := by
  -- The text in front of the last line end does no harm: it is printed, or it is stuck itself.
  induction t generalizing p with
  | nil => cases hline
  | cons b t ih =>
    have hrest : t ≠ [] → t.getLast? ≠ some Text.newline := by
      intro hne
      obtain ⟨c, t, rfl⟩ := List.exists_cons_of_ne_nil hne
      rwa [List.getLast?_cons_cons] at hlast
    by_cases hb : b = Text.newline
    · subst hb
      have hne : t ≠ [] := by
        rintro rfl
        exact hlast rfl
      rw [print_newline_cons]
      by_cases hmem : Text.newline ∈ t
      · exact ih hmem (hrest hne) hmargin
      · exact ⟨p.endLine, why, print_stuck (Text.upright_of_not_mem hne hmem) rfl hmargin⟩
    · have hmem : Text.newline ∈ t := (List.mem_cons.mp hline).resolve_left (Ne.symm hb)
      rw [print_cons hb]
      cases hpiece : p.printPiece [b] with
      | stuck q why => exact ⟨q, why, rfl⟩
      | done q =>
        have hlevel := marginError?_of_level (level_printPiece hpiece)
        exact ih hmem (hrest (List.ne_nil_of_mem hmem)) (hlevel.trans hmargin)

/-! ### Texts within a line -/

/-- A printer has written a text and stands within a line, at the level at which it began. -/
structure Wrote (p : Printer) (t : Text) (q : Printer) : Prop where
  /-- The level is the same. -/
  level_eq : q.level = p.level
  /-- The line has begun. -/
  begun : q.column ≠ 0
  /-- The text is all that was written. -/
  contents_eq : q.contents = p.contents ++ t

/-- Texts are written one behind the other. -/
theorem Wrote.trans {p q r : Printer} {s t : Text} (hs : p.Wrote s q) (ht : q.Wrote t r) :
    p.Wrote (s ++ t) r where
  level_eq := ht.level_eq.trans hs.level_eq
  begun := ht.begun
  contents_eq := by rw [ht.contents_eq, hs.contents_eq, List.append_assoc]

/-- A text that begins and ends within a line is written behind the margin. -/
theorem print_upright {t : Text} (ht : t.Upright) {p : Printer}
    (hmargin : p.marginError? = none) :
    ∃ q, p.print t = .done q ∧ p.Wrote (p.lead ++ Text.indented p.margin true t) q := by
  refine ⟨_, print_eq hmargin t, rfl, ?_, ?_⟩
  · obtain ⟨b, rest, rfl, -⟩ := ht.head
    simp [Text.columnAfter_eq_zero_iff, ht.last]
  · rw [contents, contents, List.reverse_append, List.reverse_reverse, lead]
    by_cases hcolumn : p.column = 0
    · simp [hcolumn, ht.indented_false]
    · have hbegun : (p.column != 0) = true := by simpa using hcolumn
      simp [hcolumn, hbegun]

end Printer

end Lisplet
