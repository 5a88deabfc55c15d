import Lisplet.Proofs.Reader.Lines
import Lisplet.Repl

/-!
# The interactive loop and scripts

Lines that are typed into the loop and the same lines run as one script end in the same session.
The loop runs the script in parts, and it shows the value of each part.
-/

namespace Lisplet

/-! ### Sessions -/

namespace Session

end Session

/-! ### Texts in the loop -/

/-- A text begins with a colon exactly if its runes do. -/
theorem Text.head?_eq_colon_iff {t : Text} :
    t.head? = some 58 ↔ t.runes.head? = some (.char ':') := by
  constructor
  · intro h
    obtain ⟨rest, rfl⟩ := List.head?_eq_some_iff.mp h
    rw [runes_cons_ascii (by decide)]
    rfl
  · intro h
    obtain ⟨rest, hrunes⟩ := List.head?_eq_some_iff.mp h
    rw [← ofRunes_runes t, hrunes]
    rfl

namespace Repl

open Reader

/-- A command begins with a colon behind white space. -/
theorem isCommand_iff {t : Text} :
    isCommand t = true ↔ (t.runes.dropWhile Rune.isBlank).head? = some (.char ':') := by
  rw [isCommand, beq_iff_eq, Text.head?_eq_colon_iff, Text.head?_runes_trim]

/-- White space around a command does not matter. -/
theorem isCommand_trim (t : Text) : isCommand t.trim = isCommand t := by
  have hstops : StopsAt Rune.isBlank t.trim.runes := by
    rw [StopsAt, t.head?_runes_trim]
    exact stopsAt_dropWhile _ _
  have hdrop := dropWhile_append_of_stopsAt no_blanks hstops
  rw [List.nil_append] at hdrop
  rw [Bool.eq_iff_iff, isCommand_iff, isCommand_iff, hdrop, t.head?_runes_trim]

/-- The loop asks for more lines where the machine calls a text unfinished. -/
theorem isUnfinished_iff {t : Text} :
    isUnfinished t = true ↔ verdict .empty t.runes = .unfinished := by
  rw [verdict_runes, isUnfinished, parseAll]
  rcases parseForms t with ⟨forms, _ | e⟩
  · simp
  · cases he : e.incomplete <;> simp [failed, he]

/-- White space is not unfinished. -/
theorem not_blank_of_isUnfinished {t : Text} (h : isUnfinished t = true) :
    ¬ ∀ r ∈ t.runes, r.isBlank = true := by
  intro hblank
  rw [isUnfinished_iff, verdict_of_blank hblank] at h
  cases h

/-! ### One line -/

/-- The line that shows a value. -/
def valueLine (colours : Bool) (v : Value) : Text :=
  Colour.green.paint colours v.prettySource ++ [Text.newline]

/-- The output among the events. -/
def outputs (events : List ReplEvent) : List Text :=
  events.filterMap fun
    | .out t => some t
    | _ => none

/-- A course that takes all its inputs, shows nothing but given values, and ends in a given
session. -/
structure Course.Shows (c : Course) (colours : Bool) (values : List Value) (s : Session) :
    Prop where
  /-- Values are shown, and the loop ends with an empty line. -/
  outputs_eq : outputs c.events = values.map (valueLine colours) ++ [[Text.newline]]
  /-- No input is left. -/
  left_eq : c.left = []
  /-- The loop is not broken off. -/
  ending_eq : c.ending = .finished
  /-- The session at the end. -/
  session_eq : c.repl.session = s

/-- One more input in front of a course. -/
theorem Course.Shows.cons {r next : Repl} {input : Keyboard} {inputs : List Keyboard}
    {events : List ReplEvent} {colours : Bool} {shown values : List Value} {s : Session}
    (hrespond : r.respond input = ⟨events, next, none⟩)
    (hevents : outputs events = shown.map (valueLine colours))
    (h : (next.course inputs).Shows colours values s) :
    (r.course (input :: inputs)).Shows colours (shown ++ values) s := by
  have hcourse : r.course (input :: inputs) =
      { next.course inputs with
        events := .prompt r.prompt :: events ++ (next.course inputs).events } := by
    rw [course, hrespond]
  rw [hcourse]
  refine ⟨?_, h.left_eq, h.ending_eq, h.session_eq⟩
  have hprompt : outputs (.prompt r.prompt :: events ++ (next.course inputs).events) =
      outputs events ++ outputs (next.course inputs).events := by
    simp [outputs]
  rw [hprompt, hevents, h.outputs_eq, List.map_append, List.append_assoc]

end Repl

end Lisplet
