import Lisplet.Proofs.Printer
import Mathlib.Data.List.Basic

/-!
# Lines in several calls

It does not matter how a text is cut when it is printed: the printer is the same after the parts as
after the whole, stuck or not. So a sequence of calls prints the text of all of them, and the lines
of that text tell what is written. Each line that begins at its first byte has the margin in front,
empty lines have nothing, and a line that had begun before is only gone on with. A printer whose
margin does not fit into memory is stuck as soon as a line begins that is not empty.
-/

namespace Lisplet

namespace Text

/-- The lines of a text: the first one, and those behind the line ends. -/
structure HasLines (t first : Text) (rest : List Text) : Prop where
  /-- The text is the lines with line ends between them. -/
  eq : t = first ++ rest.flatMap (newline :: ·)
  /-- There is no line end in the first line. -/
  first_line : newline ∉ first
  /-- There is none in the further lines. -/
  rest_lines : ∀ line ∈ rest, newline ∉ line

/-- Every text has lines. -/
theorem exists_hasLines (t : Text) : ∃ first rest, t.HasLines first rest := by
  induction t with
  | nil => exact ⟨[], [], rfl, by simp, by simp⟩
  | cons b t ih =>
    obtain ⟨first, rest, rfl, hfirst, hrest⟩ := ih
    by_cases hb : b = newline
    · subst hb
      exact ⟨[], first :: rest, by simp, by simp, List.forall_mem_cons.mpr ⟨hfirst, hrest⟩⟩
    · refine ⟨b :: first, rest, by simp, ?_, hrest⟩
      simp [hfirst, Ne.symm hb]

/-- A line with the margin in front, unless it is empty. -/
def hang (margin line : Text) : Text := if line = [] then [] else margin ++ line

end Text

namespace Printer

/-! ### Cuts -/

/-- What is printed in two parts is printed as a whole. -/
theorem print_append (a b : Text) (p : Printer) :
    (p.print a).andThen (print b) = p.print (a ++ b) := by
  induction a generalizing p with
  | nil =>
    rw [print_nil]
    rfl
  | cons c a ih =>
    by_cases hc : c = Text.newline
    · subst hc
      rw [List.cons_append, print_newline_cons, print_newline_cons, ih]
    · rw [List.cons_append, print_cons hc, print_cons hc, andThen_assoc]
      simp only [ih]

/-- A call of a printer. -/
inductive Write where
  /-- A text is printed. -/
  | print (t : Text)
  /-- A text is printed and the line is ended. -/
  | println (t : Text)

namespace Write

/-- The text of a call. -/
def text : Write → Text
  | .print t => t
  | .println t => t ++ [Text.newline]

/-- The text of calls, one behind the other. -/
def texts (writes : List Write) : Text := writes.flatMap text

/-- What a printer does in a call. -/
def run : Write → Printer → Printed
  | .print t, p => p.print t
  | .println t, p => p.println t

end Write

/-- Calls one after the other, until the printer is stuck. -/
def writeAll : List Write → Printer → Printed
  | [], p => .done p
  | write :: rest, p => (write.run p).andThen (writeAll rest)

/-- Any calls print the text of all of them. -/
theorem writeAll_eq (writes : List Write) (p : Printer) :
    p.writeAll writes = p.print (Write.texts writes) := by
  induction writes generalizing p with
  | nil => exact (print_nil p).symm
  | cons write rest ih =>
    have hrun : write.run p = p.print write.text := by cases write <;> rfl
    rw [writeAll, hrun, funext ih, print_append, Write.texts, Write.texts, List.flatMap_cons]

/-! ### Lines -/

/-- What a printer does that is to write a text at its level, in which a line begins or not: it is
stuck if a line begins and cannot be indented. -/
structure Lays (p : Printer) (t : Text) (begins : Prop) (outcome : Printed) : Prop where
  /-- The text is written if the margin fits, and if no line begins. -/
  done : (begins → p.marginError? = none) →
    ∃ q, outcome = .done q ∧ q.level = p.level ∧ q.contents = p.contents ++ t
  /-- The printer is stuck otherwise. -/
  stuck : begins → ∀ why, p.marginError? = some why → ∃ q, outcome = .stuck q why

/-- Only the level decides on the margin. -/
theorem margin_of_level {p q : Printer} (h : q.level = p.level) : q.margin = p.margin := by
  rw [margin, margin, h]

/-- Texts are written one behind the other. -/
theorem Lays.andThen {p : Printer} {s t : Text} {first second : Prop} {outcome : Printed}
    {next : Printer → Printed} (hs : p.Lays s first outcome)
    (ht : ∀ q : Printer, q.level = p.level → q.Lays t second (next q)) :
    p.Lays (s ++ t) (first ∨ second) (outcome.andThen next) := by
  constructor
  · intro hfits
    obtain ⟨q, rfl, hlevel, hcontents⟩ := hs.done fun h => hfits (.inl h)
    have hq : second → q.marginError? = none := by
      rw [marginError?_of_level hlevel]
      exact fun h => hfits (.inr h)
    obtain ⟨r, hr, hlevel', hcontents'⟩ := (ht q hlevel).done hq
    exact ⟨r, hr, hlevel'.trans hlevel, by rw [hcontents', hcontents, List.append_assoc]⟩
  · intro hbegins why hmargin
    by_cases hfirst : first
    · obtain ⟨q, rfl⟩ := hs.stuck hfirst why hmargin
      exact ⟨q, rfl⟩
    · obtain ⟨q, rfl, hlevel, -⟩ := hs.done fun h => absurd h hfirst
      rw [← marginError?_of_level hlevel] at hmargin
      exact (ht q hlevel).stuck (hbegins.resolve_left hfirst) why hmargin

/-- A line begins at its first byte, unless it has begun before. -/
theorem lays_line {line : Text} (hline : Text.newline ∉ line) (p : Printer) :
    p.Lays (if p.column = 0 then Text.hang p.margin line else line) (p.column = 0 ∧ line ≠ [])
      (p.print line) := by
  rw [print_eq_printPiece hline, printPiece]
  by_cases hbegins : p.column = 0 ∧ line ≠ []
  · rw [if_pos hbegins, if_pos hbegins.1, Text.hang, if_neg hbegins.2]
    constructor
    · intro hfits
      rw [hfits hbegins]
      exact ⟨_, rfl, rfl, by simp [contents, emit]⟩
    · intro _ why hmargin
      rw [hmargin]
      exact ⟨p, rfl⟩
  · have hhang : (if p.column = 0 then Text.hang p.margin line else line) = line := by
      by_cases hcolumn : p.column = 0
      · have hempty : line = [] := by simpa [hcolumn] using hbegins
        simp [hcolumn, hempty, Text.hang]
      · exact if_neg hcolumn
    rw [if_neg hbegins, hhang]
    exact ⟨fun _ => ⟨_, rfl, rfl, by simp [contents, emit]⟩, fun h => absurd h hbegins⟩

/-- A line behind a line end has not begun before. -/
theorem lays_next_line {line : Text} (hline : Text.newline ∉ line) (p : Printer) :
    p.Lays (Text.newline :: Text.hang p.margin line) (line ≠ [])
      (p.print (Text.newline :: line)) := by
  have hnext := lays_line hline p.endLine
  have hcontents : p.endLine.contents = p.contents ++ [Text.newline] := by
    simp [contents, endLine, emit]
  rw [print_newline_cons]
  constructor
  · intro hfits
    obtain ⟨q, hq, hlevel, hwritten⟩ := hnext.done fun h => hfits h.2
    refine ⟨q, hq, hlevel, ?_⟩
    rw [hwritten, hcontents, List.append_assoc]
    rfl
  · intro hbegins why hmargin
    exact hnext.stuck ⟨rfl, hbegins⟩ why hmargin

/-- Lines behind line ends are written one behind the other. -/
theorem lays_next_lines {lines : List Text} (hlines : ∀ line ∈ lines, Text.newline ∉ line)
    (p : Printer) :
    p.Lays (lines.flatMap (Text.newline :: Text.hang p.margin ·)) (∃ line ∈ lines, line ≠ [])
      (p.print (lines.flatMap (Text.newline :: ·))) := by
  induction lines generalizing p with
  | nil => exact ⟨fun _ => ⟨p, print_nil p, rfl, by simp⟩, by simp⟩
  | cons line rest ih =>
    rw [List.forall_mem_cons] at hlines
    have hboth := (lays_next_line hlines.1 p).andThen fun q hlevel => by
      have hrest := ih hlines.2 q
      rwa [margin_of_level hlevel] at hrest
    rw [print_append] at hboth
    simpa only [List.flatMap_cons, List.exists_mem_cons_iff, List.cons_append] using hboth

/-- A line begins that is not empty. -/
def Begins (p : Printer) (first : Text) (rest : List Text) : Prop :=
  (p.column = 0 ∧ first ≠ []) ∨ ∃ line ∈ rest, line ≠ []

/-- The first line may have begun before, and all others begin in the text. -/
theorem lays_lines {t first : Text} {rest : List Text} (h : t.HasLines first rest) (p : Printer) :
    p.Lays ((if p.column = 0 then Text.hang p.margin first else first) ++
        rest.flatMap (Text.newline :: Text.hang p.margin ·)) (p.Begins first rest) (p.print t) := by
  rw [h.eq, ← print_append]
  apply (lays_line h.first_line p).andThen
  intro q hlevel
  rw [← margin_of_level hlevel]
  exact lays_next_lines h.rest_lines q

/-- What a printer at a level does that is to print lines. -/
structure WritesLines (p : Printer) (level : Nat) (first : Text) (rest : List Text)
    (outcome : Printed) : Prop where
  /-- The margin is put in front of each line that begins, empty lines apart, and nothing else is
  put into the text. -/
  done : (p.Begins first rest → 2 * (level : Int) ≤ widestMargin) →
    ∃ q, outcome = .done q ∧ q.level = level ∧ q.contents = p.contents ++
      ((if p.column = 0 then Text.hang (Text.marginAt level) first else first) ++
        rest.flatMap (Text.newline :: Text.hang (Text.marginAt level) ·))
  /-- A line cannot begin with a margin that does not fit. -/
  stuck : p.Begins first rest → ¬ 2 * (level : Int) ≤ widestMargin →
    ∃ q why, outcome = .stuck q why

/-- At a level from zero on, a margin fits or is too wide for the memory. -/
theorem Lays.writesLines {p : Printer} {level : Nat} (hlevel : p.level = level) {first : Text}
    {rest : List Text} {outcome : Printed}
    (h : p.Lays ((if p.column = 0 then Text.hang p.margin first else first) ++
      rest.flatMap (Text.newline :: Text.hang p.margin ·)) (p.Begins first rest) outcome) :
    p.WritesLines level first rest outcome := by
  have hfits : p.marginError? = none ↔ 2 * (level : Int) ≤ widestMargin := by
    rw [marginError?_eq_none_iff, hlevel]
    exact and_iff_right (Int.natCast_nonneg level)
  rw [margin_eq hlevel] at h
  constructor
  · intro hbegins
    obtain ⟨q, hq, hlevel', hcontents⟩ := h.done fun hb => hfits.mpr (hbegins hb)
    exact ⟨q, hq, hlevel'.trans hlevel, hcontents⟩
  · intro hbegins htoo
    obtain ⟨why, hmargin⟩ := Option.ne_none_iff_exists'.mp (mt hfits.mp htoo)
    obtain ⟨q, hq⟩ := h.stuck hbegins why hmargin
    exact ⟨q, why, hq⟩

/-- At any level, what is printed in two parts is printed as a whole, with the same printer
afterwards. Any calls print the lines of their texts joined: two blanks per level stand in front of
each line that begins in them and is not empty, and nothing else is added. The printer is stuck
exactly if such a line begins and the blanks do not fit into memory. -/
theorem writes_cut_anywhere {p : Printer} {level : Nat} (hlevel : p.level = level) :
    (∀ a b : Text, (p.print a).andThen (print b) = p.print (a ++ b)) ∧
      ∀ writes : List Write,
        (∃ first rest, (Write.texts writes).HasLines first rest) ∧
          ∀ first rest, (Write.texts writes).HasLines first rest →
            p.WritesLines level first rest (p.writeAll writes) := by
  refine ⟨fun a b => print_append a b p, fun writes => ⟨Text.exists_hasLines _, ?_⟩⟩
  intro first rest hlines
  rw [writeAll_eq]
  exact (lays_lines hlines p).writesLines hlevel

/-- At the second level, a line is begun by one call and ended by another, an empty line follows,
and the last line is not ended. -/
theorem writes_cut_anywhere_empty_line :
    ∃ q, (⟨2, 0, []⟩ : Printer).writeAll [.print (text "a\nb"), .println (text "c"), .println [],
        .print (text "d")] = .done q ∧ q.level = 2 ∧
      q.contents = text "    a\n    bc\n\n    d" := by
  have hlevel : (⟨2, 0, []⟩ : Printer).level = ((2 : Nat) : Int) := rfl
  have hlines : (Write.texts [.print (text "a\nb"), .println (text "c"), .println [],
      .print (text "d")]).HasLines (text "a") [text "bc", [], text "d"] :=
    ⟨by decide, by decide, by decide⟩
  obtain ⟨q, hq, hlevel', hcontents⟩ :=
    ((writes_cut_anywhere hlevel).2 _).2 _ _ hlines |>.done fun _ => by decide
  exact ⟨q, hq, hlevel', hcontents⟩

end Printer

end Lisplet
