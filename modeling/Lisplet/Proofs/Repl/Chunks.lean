import Lisplet.Proofs.Evaluator.Tame
import Lisplet.Proofs.Repl

/-!
# What becomes of the lines

The loop divides the lines that are typed into chunks. The lines of a chunk are collected while they
are unfinished. Then they are taken together, as a command, as code or as a blank text, or they are
given up because something else than a line comes. No line is lost and none is used twice, and what
is run is never unfinished: trimming a finished text does not make it so.
-/

namespace Lisplet

namespace Repl

/-! ### Lines that are collected -/

/-- Lines, one below the other. -/
def stacked (lines : List Text) : Text := Text.join [Text.newline] lines

/-- One more line stands below the others. -/
theorem stacked_concat {lines : List Text} (hlines : lines ≠ []) (line : Text) :
    stacked (lines ++ [line]) = stacked lines ++ Text.newline :: line := by
  induction lines with
  | nil => exact absurd rfl hlines
  | cons first rest ih =>
    cases rest with
    | nil => simp [stacked, Text.join]
    | cons second rest =>
      have hrest := ih (List.cons_ne_nil second rest)
      simp only [stacked, List.cons_append] at hrest
      simp [stacked, Text.join, hrest]

/-- Whether more lines are asked for behind a text: it is unfinished and no command. -/
def isPending (t : Text) : Bool := !isCommand t && isUnfinished t

/-- Lines that are collected: behind any number of them, more were asked for. -/
def Collected (lines : List Text) : Prop :=
  ∀ front, front <+: lines → front ≠ [] → isPending (stacked front) = true

/-- A line is collected too if more are asked for behind it. -/
theorem Collected.concat {lines : List Text} (h : Collected lines) {line : Text}
    (hpending : isPending (stacked (lines ++ [line])) = true) : Collected (lines ++ [line]) := by
  intro front hfront hne
  rcases List.prefix_concat_iff.mp hfront with rfl | hfront
  · exact hpending
  · exact h front hfront hne

/-- The loop holds lines that are collected. -/
structure Holds (r : Repl) (lines : List Text) : Prop where
  /-- Their text is kept. -/
  pending_eq : r.pending = stacked lines
  /-- More lines are asked for. -/
  collected : Collected lines

/-- At the start no lines are held. -/
theorem holds_start (s : Session) (colours : Bool) : (start s colours).Holds [] :=
  ⟨rfl, fun _ hfront hne => absurd (List.prefix_nil.mp hfront) hne⟩

section Holds

variable {r : Repl} {lines : List Text}

/-- What is kept is empty only if no lines are held: lines without a text are not unfinished. -/
theorem Holds.isEmpty_pending (h : r.Holds lines) : r.pending.isEmpty = lines.isEmpty := by
  cases lines with
  | nil => simp [h.pending_eq, stacked, Text.join]
  | cons line rest =>
    have hpending := h.collected _ (List.prefix_refl _) (List.cons_ne_nil line rest)
    rw [isPending, Bool.and_eq_true] at hpending
    rw [h.pending_eq, List.isEmpty_cons, List.isEmpty_eq_false_iff]
    intro hnil
    exact not_blank_of_isUnfinished hpending.2 (by simp [hnil])

/-- A line is joined to the lines that are held. -/
theorem Holds.joined_eq (h : r.Holds lines) (line : Text) :
    r.joined line = stacked (lines ++ [line]) := by
  rw [joined, h.isEmpty_pending, h.pending_eq]
  cases lines with
  | nil => rfl
  | cons first rest =>
    rw [stacked_concat (List.cons_ne_nil first rest)]
    rfl

/-- A line behind which more are asked for is held with the others. -/
theorem Holds.concat (h : r.Holds lines) {line : Text}
    (hpending : isPending (r.joined line) = true) :
    Holds { r with pending := r.joined line } (lines ++ [line]) := by
  rw [h.joined_eq] at hpending ⊢
  exact ⟨rfl, h.collected.concat hpending⟩

end Holds

/-! ### Chunks -/

/-- Lines that follow one another, and what becomes of them. -/
inductive Chunk where
  /-- They are finished, and taken together. -/
  | taken (lines : List Text)
  /-- They are given up, because of an input that is no line. -/
  | dropped (lines : List Text) (cause : Keyboard)

namespace Chunk

/-- The inputs that make up a chunk. -/
def inputs : Chunk → List Keyboard
  | .taken lines => lines.map .line
  | .dropped lines cause => lines.map .line ++ [cause]

/-- The lines of a chunk were collected up to the input that closes it: a line with which they are
finished, or an input that is no line. -/
def Proper : Chunk → Prop
  | .taken lines => isPending (stacked lines) = false ∧
      ∃ front last, lines = front ++ [last] ∧ Collected front
  | .dropped lines cause => Collected lines ∧ ∀ line, cause ≠ .line line

/-- The text that is taken, white space around it apart. -/
def text? : Chunk → Option Text
  | .taken lines => some (stacked lines).trim
  | .dropped _ _ => none

/-- The code that is run: a text that is taken, if it is neither blank nor a command. -/
def code? (chunk : Chunk) : Option Text :=
  chunk.text?.filter fun t => !t.isEmpty && !isCommand t

/-- What the loop does with a chunk in a session. -/
def reply (s : Session) (colours : Bool) : Chunk → Reply
  | .taken lines => (start s colours).take (stacked lines)
  | .dropped _ .aborted => ⟨[], start s colours, none⟩
  | .dropped _ _ => ⟨[.out [Text.newline]], start s colours, some .finished⟩

end Chunk

/-- The prompts for so many inputs of one chunk: all but the first tell that lines are held. -/
def prompts : Nat → List Text
  | 0 => []
  | n + 1 => text "owl> " :: List.replicate n (text "...> ")

/-- What is shown and kept for a chunk: its prompts, and what the loop does with it. -/
def Chunk.events (s : Session) (colours : Bool) (chunk : Chunk) : List ReplEvent :=
  (prompts chunk.inputs.length).map .prompt ++ (chunk.reply s colours).events

/-- A loop that goes from chunk to chunk, each in the session that the one before it left, up to the
first that ends the loop. -/
inductive Passes (colours : Bool) :
    Session → List Chunk → List ReplEvent → Session → ReplEnd → Prop
  | last {s : Session} {chunk : Chunk} {ending : ReplEnd}
    (hending : (chunk.reply s colours).ending = some ending) :
    Passes colours s [chunk] (chunk.events s colours) (chunk.reply s colours).repl.session ending
  | next {s s' : Session} {chunk : Chunk} {chunks : List Chunk} {events : List ReplEvent}
    {ending : ReplEnd} (hending : (chunk.reply s colours).ending = none)
    (rest : Passes colours (chunk.reply s colours).repl.session chunks events s' ending) :
    Passes colours s (chunk :: chunks) (chunk.events s colours ++ events) s' ending

/-! ### The loop goes from chunk to chunk -/

/-- A course divides inputs into chunks. Some events were shown before the course. -/
structure Course.Divides (c : Course) (s : Session) (colours : Bool) (shown : List ReplEvent)
    (inputs : List Keyboard) (chunks : List Chunk) : Prop where
  /-- The inputs are those of the chunks, in order, and those that were not asked for. The last
  input is the end, which the loop is told when there are no more lines. -/
  inputs_eq : ∃ left, inputs = chunks.flatMap Chunk.inputs ++ left ∧ c.left = left.dropLast
  /-- The chunks are collected and closed as they have to be. -/
  proper : ∀ chunk ∈ chunks, chunk.Proper
  /-- The loop goes through the chunks. -/
  passes : Passes colours s chunks (shown ++ c.events) c.repl.session c.ending

/-- The loop asks for one more input. -/
theorem Holds.prompts_append {r : Repl} {lines : List Text} (h : r.Holds lines) :
    (prompts lines.length).map .prompt ++ [.prompt r.prompt] =
      (prompts (lines.length + 1)).map ReplEvent.prompt := by
  rw [prompt, h.isEmpty_pending]
  cases lines with
  | nil => rfl
  | cons line rest =>
    rw [List.length_cons, prompts, prompts, List.replicate_succ']
    simp

/-- A command leaves the loop as it is. -/
theorem repl_command (r : Repl) (name : Text) : (r.command name).repl = r := by
  rw [command]
  split_ifs <;> rfl

/-- A text that was taken leaves nothing collected, and the colours as they were. -/
theorem repl_take (s : Session) (colours : Bool) (t : Text) :
    ((start s colours).take t).repl = start ((start s colours).take t).repl.session colours := by
  rw [take]
  by_cases hblank : t.trim.isEmpty = true
  · rw [if_pos hblank]
    rfl
  · rw [if_neg hblank]
    by_cases hcommand : isCommand t.trim = true
    · simp only [if_pos hcommand, repl_command]
      rfl
    · simp only [if_neg hcommand, run]
      split <;> rfl

/-- A loop that holds lines does with an input what becomes of the chunk that the input closes. -/
structure Closes (r : Repl) (lines : List Text) (input : Keyboard) (chunk : Chunk) : Prop where
  /-- The chunk is the lines and the input. -/
  inputs_eq : chunk.inputs = lines.map .line ++ [input]
  /-- The chunk is collected and closed as it has to be. -/
  proper : chunk.Proper
  /-- The same is shown and kept. -/
  events_eq : (r.respond input).events = (chunk.reply r.session r.colours).events
  /-- The same session is left. -/
  session_eq : (r.respond input).repl.session = (chunk.reply r.session r.colours).repl.session
  /-- Both or neither end the loop. -/
  ending_eq : (r.respond input).ending = (chunk.reply r.session r.colours).ending
  /-- A loop that goes on begins anew. -/
  repl_eq : (r.respond input).ending = none →
    (r.respond input).repl = start (r.respond input).repl.session r.colours

section Steps

variable {r : Repl} {lines : List Text}

/-- An input that is no line closes the chunk. -/
theorem Holds.closes_dropped (h : r.Holds lines) {input : Keyboard}
    (hinput : ∀ line, input ≠ .line line) : r.Closes lines input (.dropped lines input) := by
  have hproper : (Chunk.dropped lines input).Proper := ⟨h.collected, hinput⟩
  cases input with
  | line t => exact absurd rfl (hinput t)
  | aborted => exact ⟨rfl, hproper, rfl, rfl, rfl, fun _ => rfl⟩
  | failed => exact ⟨rfl, hproper, rfl, rfl, rfl, fun hnone => by cases hnone⟩
  | ended => exact ⟨rfl, hproper, rfl, rfl, rfl, fun hnone => by cases hnone⟩

/-- A line behind which no more are asked for closes the chunk. -/
theorem Holds.closes_taken (h : r.Holds lines) {line : Text}
    (hpending : isPending (r.joined line) = false) :
    r.Closes lines (.line line) (.taken (lines ++ [line])) := by
  have hrespond : r.respond (.line line) =
      Chunk.reply r.session r.colours (.taken (lines ++ [line])) := by
    rw [Chunk.reply, ← h.joined_eq]
    simp only [respond]
    rw [if_neg (by simpa [isPending] using hpending)]
    rfl
  rw [h.joined_eq] at hpending
  refine ⟨by simp [Chunk.inputs], ⟨hpending, lines, line, rfl, h.collected⟩, ?_, ?_, ?_, ?_⟩
  · rw [hrespond]
  · rw [hrespond]
  · rw [hrespond]
  · rw [hrespond]
    exact fun _ => repl_take r.session r.colours _

/-- A line behind which more are asked for is collected. -/
theorem respond_pending {line : Text} (hpending : isPending (r.joined line) = true) :
    r.respond (.line line) = ⟨[], { r with pending := r.joined line }, none⟩ := by
  simp only [respond]
  rw [if_pos (by simpa [isPending] using hpending)]

/-- With the prompts before it, the loop shows and keeps what belongs to the chunk. -/
theorem Closes.events_append (h : r.Holds lines) {input : Keyboard} {chunk : Chunk}
    (hcloses : r.Closes lines input chunk) :
    (prompts lines.length).map ReplEvent.prompt ++ .prompt r.prompt :: (r.respond input).events =
      chunk.events r.session r.colours := by
  have hlength : chunk.inputs.length = lines.length + 1 := by simp [hcloses.inputs_eq]
  rw [Chunk.events, hlength, ← h.prompts_append, hcloses.events_eq, List.append_assoc]
  rfl

/-- The chunk that an input closes comes in front of those that the rest of the inputs is divided
into. -/
theorem Closes.divides (h : r.Holds lines) {input : Keyboard} {chunk : Chunk}
    (hcloses : r.Closes lines input chunk) (inputs : List Keyboard)
    (hrest : ∀ s, ∃ chunks, ((start s r.colours).course inputs).Divides s r.colours []
      (inputs ++ [.ended]) chunks) :
    ∃ chunks, (r.course (input :: inputs)).Divides r.session r.colours
      ((prompts lines.length).map .prompt) (lines.map .line ++ (input :: inputs ++ [.ended]))
      chunks := by
  have hevents := hcloses.events_append h
  cases hending : (r.respond input).ending with
  | some ending =>
    refine ⟨[chunk], ⟨inputs ++ [.ended], ?_, ?_⟩, by simpa using hcloses.proper, ?_⟩
    · simp [hcloses.inputs_eq]
    · simp [course, hending]
    · simp only [course, hending, hevents, hcloses.session_eq]
      exact .last (hcloses.ending_eq.symm.trans hending)
  | none =>
    obtain ⟨chunks, ⟨left, hinputs, hleft⟩, hproper, hpasses⟩ :=
      hrest (r.respond input).repl.session
    have hcourse : (r.respond input).repl.course inputs =
        (start (r.respond input).repl.session r.colours).course inputs := by
      rw [← hcloses.repl_eq hending]
    refine ⟨chunk :: chunks, ⟨left, ?_, ?_⟩, ?_, ?_⟩
    · simp [hcloses.inputs_eq, hinputs]
    · simp only [course, hending, hcourse, hleft]
    · simpa using ⟨hcloses.proper, hproper⟩
    · simp only [course, hending, hcourse, ← List.append_assoc, hevents]
      refine .next (hcloses.ending_eq.symm.trans hending) ?_
      rw [← hcloses.session_eq]
      exact hpasses

end Steps

/-- The loop divides its inputs into chunks. The lines that it holds belong to the first of them. -/
theorem Holds.exists_divides {r : Repl} {lines : List Text} (h : r.Holds lines)
    (inputs : List Keyboard) :
    ∃ chunks, (r.course inputs).Divides r.session r.colours ((prompts lines.length).map .prompt)
      (lines.map .line ++ (inputs ++ [.ended])) chunks := by
  -- The induction is on the inputs. The lines that are held grow until an input closes the chunk.
  induction inputs generalizing r lines with
  | nil =>
    have hcloses : r.Closes lines .ended (.dropped lines .ended) := h.closes_dropped (by simp)
    refine ⟨[.dropped lines .ended], ⟨[], by simp [Chunk.inputs], rfl⟩,
      by simpa using hcloses.proper, ?_⟩
    simp only [course, hcloses.events_append h, hcloses.session_eq]
    exact .last rfl
  | cons input inputs ih =>
    have hrest : ∀ s, ∃ chunks, ((start s r.colours).course inputs).Divides s r.colours []
        (inputs ++ [.ended]) chunks := fun s => ih (holds_start s r.colours)
    by_cases hline : ∀ line, input ≠ .line line
    · exact (h.closes_dropped hline).divides h inputs hrest
    · push Not at hline
      obtain ⟨line, rfl⟩ := hline
      cases hpending : isPending (r.joined line) with
      | false => exact (h.closes_taken hpending).divides h inputs hrest
      | true =>
        obtain ⟨chunks, ⟨left, hinputs, hleft⟩, hproper, hpasses⟩ := ih (h.concat hpending)
        have hcourse := respond_pending hpending
        refine ⟨chunks, ⟨left, ?_, ?_⟩, hproper, ?_⟩
        · simpa using hinputs
        · simpa [course, hcourse] using hleft
        · simp only [course, hcourse, List.cons_append, List.nil_append]
          rw [List.length_append, List.length_singleton, ← h.prompts_append] at hpasses
          simpa using hpasses

/-! ### What is asked, kept and run -/

/-- The prompts among the events. -/
def prompted (events : List ReplEvent) : List Text :=
  events.filterMap fun
    | .prompt t => some t
    | _ => none

/-- The texts that are kept in the history. -/
def kept (events : List ReplEvent) : List Text :=
  events.filterMap fun
    | .history t => some t
    | _ => none

/-- The prompts among events one after the other. -/
theorem prompted_append (front back : List ReplEvent) :
    prompted (front ++ back) = prompted front ++ prompted back :=
  List.filterMap_append

/-- The texts that are kept among events one after the other. -/
theorem kept_append (front back : List ReplEvent) :
    kept (front ++ back) = kept front ++ kept back :=
  List.filterMap_append

/-- Events that are neither asked nor kept. -/
def OutputOnly (events : List ReplEvent) : Prop := ∀ event ∈ events, ∃ t, event = .out t

/-- What is written is output. -/
theorem outputOnly_output (t : Text) : OutputOnly (output t) := by
  rw [output]
  split_ifs <;> simp [OutputOnly]

/-- There are no prompts in output. -/
theorem OutputOnly.prompted_eq {events : List ReplEvent} (h : OutputOnly events) :
    prompted events = [] := by
  rw [prompted, List.filterMap_eq_nil_iff]
  intro event hevent
  obtain ⟨t, rfl⟩ := h event hevent
  rfl

/-- Nothing is kept of output. -/
theorem OutputOnly.kept_eq {events : List ReplEvent} (h : OutputOnly events) :
    kept events = [] := by
  rw [kept, List.filterMap_eq_nil_iff]
  intro event hevent
  obtain ⟨t, rfl⟩ := h event hevent
  rfl

/-- A command gives output only. -/
theorem outputOnly_command (r : Repl) (name : Text) : OutputOnly (r.command name).events := by
  rw [command]
  -- The overview is a long text, which is not to be opened.
  generalize help = overview
  split_ifs
  · simp [OutputOnly]
  · exact outputOnly_output overview
  · exact outputOnly_output r.listing
  · exact outputOnly_output _

/-- Running code gives output only. -/
theorem outputOnly_run (r : Repl) (code : Text) : OutputOnly (r.run code).events := by
  rw [run]
  split
  · exact outputOnly_output _
  · exact outputOnly_output _
  · simp [OutputOnly]

/-- A chunk keeps its text if this is not blank, and shows output besides. -/
theorem Chunk.exists_events_reply (s : Session) (colours : Bool) (chunk : Chunk) :
    ∃ shown, OutputOnly shown ∧ (chunk.reply s colours).events =
      (chunk.text?.toList.filter fun t => !t.isEmpty).map .history ++ shown := by
  cases chunk with
  | dropped lines cause => cases cause <;> exact ⟨_, by simp [OutputOnly], rfl⟩
  | taken lines =>
    rw [reply, take]
    by_cases hblank : (stacked lines).trim.isEmpty = true
    · rw [if_pos hblank]
      exact ⟨[], by simp [OutputOnly], by simp [text?, hblank]⟩
    · rw [if_neg hblank]
      refine ⟨(if isCommand (stacked lines).trim then
        (start s colours).command (stacked lines).trim.toSmall
        else (start s colours).run (stacked lines).trim).events, ?_, by simp [text?, hblank]⟩
      split_ifs
      · exact outputOnly_command _ _
      · exact outputOnly_run _ _

/-- A chunk is asked for with its own prompts. -/
theorem Chunk.prompted_events (s : Session) (colours : Bool) (chunk : Chunk) :
    prompted (chunk.events s colours) = prompts chunk.inputs.length := by
  obtain ⟨shown, hshown, hevents⟩ := chunk.exists_events_reply s colours
  rw [events, hevents, prompted_append, prompted_append, hshown.prompted_eq]
  simp [prompted]

/-- The text of a chunk is kept unless it is dropped or blank. -/
theorem Chunk.kept_events (s : Session) (colours : Bool) (chunk : Chunk) :
    kept (chunk.events s colours) = chunk.text?.toList.filter fun t => !t.isEmpty := by
  obtain ⟨shown, hshown, hevents⟩ := chunk.exists_events_reply s colours
  rw [events, hevents, kept_append, kept_append, hshown.kept_eq]
  simp [kept]

end Repl

namespace Session

/-- The session after some texts have been run, one after the other. -/
def afterRuns (s : Session) (codes : List Text) : Session :=
  codes.foldl (fun s code => (s.run code).2) s

/-- Code may be run part by part. -/
theorem afterRuns_append (s : Session) (front back : List Text) :
    s.afterRuns (front ++ back) = (s.afterRuns front).afterRuns back :=
  List.foldl_append

/-- Running code registers nothing. -/
@[simp] theorem registry_afterRuns (s : Session) (codes : List Text) :
    (s.afterRuns codes).registry = s.registry := by
  induction codes generalizing s with
  | nil => rfl
  | cons code rest ih => exact ih (s.run code).2

/-- Running code does not change the policies. -/
@[simp] theorem policies_afterRuns (s : Session) (codes : List Text) :
    (s.afterRuns codes).policies = s.policies := by
  induction codes generalizing s with
  | nil => rfl
  | cons code rest ih => exact ih (s.run code).2

/-- The registry of a session stays tame when a tame operation is registered. -/
theorem tame_register {s : Session} (h : s.registry.Tame) (name : Text) {operation : Operation}
    (hoperation : operation.Tame) : (s.register name operation).registry.Tame :=
  Registry.Tame.insert h name hoperation

end Session

namespace Repl

/-- Code is not unfinished if it can be read or no further input can mend it. -/
theorem isUnfinished_eq_false_iff {t : Text} :
    isUnfinished t = false ↔ ∀ e, parseAll t = .error e → e.incomplete = false := by
  rw [isUnfinished, parseAll]
  rcases parseForms t with ⟨forms, _ | e⟩ <;> simp

/-- White space around a text does not make it unfinished. -/
theorem isUnfinished_trim (t : Text) : isUnfinished t.trim = isUnfinished t := by
  rw [Bool.eq_iff_iff, isUnfinished_iff, isUnfinished_iff, Reader.verdict_trim]

/-- What is run is not unfinished. -/
theorem Chunk.Proper.isUnfinished_code {chunk : Chunk} (h : chunk.Proper) {code : Text}
    (hcode : chunk.code? = some code) : isUnfinished code = false := by
  cases chunk with
  | dropped lines cause => cases hcode
  | taken lines =>
    rw [code?, text?, Option.filter_eq_some_iff] at hcode
    obtain ⟨htext, hkind⟩ := hcode
    obtain rfl := Option.some.inj htext
    have hpending := h.1
    rw [isPending, ← isCommand_trim, ← isUnfinished_trim] at hpending
    simp_all

/-- With tame operations a text that is not unfinished does not fail as if it were. -/
theorem tame_run {s : Session} (htame : s.registry.Tame) {code : Text}
    (hcode : isUnfinished code = false) : (s.run code).1.Tame s.policies :=
  tame_script htame.evaluate s.root (isUnfinished_eq_false_iff.mp hcode) s.policies s.world

/-- The loop leaves the session in which the code was run. -/
theorem session_run (r : Repl) (code : Text) :
    (r.run code).repl.session = (r.session.run code).2 := by
  rw [run]
  split <;> simp_all

/-- Only a run that is broken off ends the loop. -/
theorem ending_run_eq_some_iff {r : Repl} {code : Text} {ending : ReplEnd} :
    (r.run code).ending = some ending ↔
      ∃ failure, (r.session.run code).1 = .aborted failure ∧ ending = .aborted failure := by
  rw [run]
  rcases r.session.run code with ⟨v | f | f, session⟩ <;> simp [eq_comm]

/-- A chunk that runs no code leaves the session as it is and can only finish the loop. Any other
does what its code does. -/
theorem Chunk.reply_cases (s : Session) (colours : Bool) (chunk : Chunk) :
    (chunk.code? = none ∧ (chunk.reply s colours).repl.session = s ∧
      ∀ ending, (chunk.reply s colours).ending = some ending → ending = .finished) ∨
    ∃ code, chunk.code? = some code ∧
      (chunk.reply s colours).repl.session = (s.run code).2 ∧
      (chunk.reply s colours).ending = ((start s colours).run code).ending := by
  cases chunk with
  | dropped lines cause => cases cause <;> exact .inl ⟨rfl, rfl, by simp [reply]⟩
  | taken lines =>
    rw [reply, take]
    by_cases hblank : (stacked lines).trim.isEmpty = true
    · exact .inl ⟨by simp [code?, text?, Option.filter, hblank], by simp [hblank, start],
        by simp [hblank]⟩
    · by_cases hcommand : isCommand (stacked lines).trim = true
      · refine .inl ⟨by simp [code?, text?, Option.filter, hcommand], ?_, ?_⟩
        · simp [hblank, hcommand, repl_command, start]
        · simp only [if_neg hblank, if_pos hcommand, command]
          split_ifs <;> simp
      · refine .inr ⟨(stacked lines).trim, ?_, ?_, ?_⟩
        · simp [code?, text?, Option.filter, hblank, hcommand]
        · simp only [if_neg hblank, if_neg hcommand, session_run]
          rfl
        · simp only [if_neg hblank, if_neg hcommand]

/-- A chunk changes the session by the code that it runs. -/
theorem Chunk.session_reply (s : Session) (colours : Bool) (chunk : Chunk) :
    (chunk.reply s colours).repl.session = s.afterRuns chunk.code?.toList := by
  rcases chunk.reply_cases s colours with ⟨hcode, hsession, -⟩ | ⟨code, hcode, hsession, -⟩
  · rw [hsession, hcode]
    rfl
  · rw [hsession, hcode]
    rfl

/-- Where failures are handed back, the loop ends only as it was told to. -/
theorem Chunk.Proper.ending_reply {chunk : Chunk} (h : chunk.Proper) {s : Session} {colours : Bool}
    (htame : s.registry.Tame) (hfatal : s.policies.fatal = .fail) {ending : ReplEnd}
    (hending : (chunk.reply s colours).ending = some ending) : ending = .finished := by
  rcases chunk.reply_cases s colours with ⟨-, -, hfinished⟩ | ⟨code, hcode, -, hrun⟩
  · exact hfinished ending hending
  · rw [hrun, ending_run_eq_some_iff] at hending
    obtain ⟨failure, haborted, -⟩ := hending
    have htamed := tame_run htame (h.isUnfinished_code hcode)
    rw [show (s.run code).1 = .aborted failure from haborted, Outcome.Tame, hfatal] at htamed
    cases htamed.2

/-! ### The whole loop -/

section Passes

variable {colours : Bool} {s s' : Session} {chunks : List Chunk} {events : List ReplEvent}
  {ending : ReplEnd}

/-- Each chunk has its own prompts. -/
theorem Passes.prompted_eq (h : Passes colours s chunks events s' ending) :
    prompted events = chunks.flatMap fun chunk => prompts chunk.inputs.length := by
  induction h with
  | last _ => simp [Chunk.prompted_events]
  | next _ _ ih => rw [List.flatMap_cons, prompted_append, Chunk.prompted_events, ih]

/-- The texts of the chunks are kept in their order, blank ones apart. -/
theorem Passes.kept_eq (h : Passes colours s chunks events s' ending) :
    kept events = (chunks.filterMap Chunk.text?).filter fun t => !t.isEmpty := by
  rw [List.filterMap_eq_flatMap_toList]
  induction h with
  | last _ => rw [Chunk.kept_events, List.flatMap_singleton]
  | next _ _ ih =>
    rw [List.flatMap_cons, List.filter_append, kept_append, Chunk.kept_events, ih]

/-- The session at the end is the one in which the code of all chunks was run. -/
theorem Passes.session_eq (h : Passes colours s chunks events s' ending) :
    s' = s.afterRuns (chunks.filterMap Chunk.code?) := by
  rw [List.filterMap_eq_flatMap_toList]
  induction h with
  | last _ => rw [Chunk.session_reply, List.flatMap_singleton]
  | next _ _ ih => rw [ih, List.flatMap_cons, Session.afterRuns_append, Chunk.session_reply]

/-- Where failures are handed back, no chunk breaks off the loop. -/
theorem Passes.ending_eq (h : Passes colours s chunks events s' ending)
    (hproper : ∀ chunk ∈ chunks, chunk.Proper) (htame : s.registry.Tame)
    (hfatal : s.policies.fatal = .fail) : ending = .finished := by
  induction h with
  | last hending => exact (hproper _ (by simp)).ending_reply htame hfatal hending
  | next _ _ ih =>
    refine ih (fun chunk hchunk => hproper chunk (List.mem_cons_of_mem _ hchunk)) ?_ ?_
    · rwa [Chunk.session_reply, Session.registry_afterRuns]
    · rwa [Chunk.session_reply, Session.policies_afterRuns]

end Passes

/-- The loop accounts for its inputs by chunks. -/
structure Accounts (s : Session) (colours : Bool) (inputs : List Keyboard)
    (chunks : List Chunk) : Prop where
  /-- The inputs up to the end of the loop are divided into the chunks, in order. The end of the
  inputs counts as one of them. -/
  divides : ((start s colours).course inputs).Divides s colours [] (inputs ++ [.ended]) chunks
  /-- The prompts tell whether there are lines in the chunk before the one that is asked for. -/
  prompted_eq : prompted ((start s colours).course inputs).events =
    chunks.flatMap fun chunk => prompts chunk.inputs.length
  /-- The history is the texts that are taken and not blank, in order. -/
  kept_eq : kept ((start s colours).course inputs).events =
    (chunks.filterMap Chunk.text?).filter fun t => !t.isEmpty
  /-- The code in the chunks is run, in order, and nothing else is. -/
  session_eq : ((start s colours).course inputs).repl.session =
    s.afterRuns (chunks.filterMap Chunk.code?)
  /-- The reader does not ask for more behind code that is run. -/
  finished : ∀ code ∈ chunks.filterMap Chunk.code?, ∀ e, parseAll code = .error e →
    e.incomplete = false

/-- No input is lost or repeated, and no unfinished text is run. Under the policy that hands
failures back and with operations that do not themselves ask for more input, no run fails with an
error that more input could mend, and the loop ends only as it was told to. -/
theorem exists_accounts (s : Session) (colours : Bool) (inputs : List Keyboard) :
    ∃ chunks, Accounts s colours inputs chunks ∧
      (s.registry.Tame → s.policies.fatal = .fail →
        ((start s colours).course inputs).ending = .finished ∧
        ∀ before code after, chunks.filterMap Chunk.code? = before ++ code :: after →
          ∀ result, ((s.afterRuns before).run code).1 = .failed result →
            result.failure.isIncomplete = false) := by
  obtain ⟨chunks, hdivides⟩ := (holds_start s colours).exists_divides inputs
  have hpasses := hdivides.passes
  have hfinished : ∀ code ∈ chunks.filterMap Chunk.code?, isUnfinished code = false := by
    intro code hcode
    obtain ⟨chunk, hchunk, hcode⟩ := List.mem_filterMap.mp hcode
    exact (hdivides.proper chunk hchunk).isUnfinished_code hcode
  refine ⟨chunks, ⟨hdivides, hpasses.prompted_eq, hpasses.kept_eq, hpasses.session_eq,
    fun code hcode => isUnfinished_eq_false_iff.mp (hfinished code hcode)⟩, ?_⟩
  intro htame hfatal
  refine ⟨hpasses.ending_eq hdivides.proper htame hfatal, ?_⟩
  intro before code after hcodes result hfailed
  have htamed : ((s.afterRuns before).run code).1.Tame (s.afterRuns before).policies :=
    tame_run (by rwa [Session.registry_afterRuns]) (hfinished code (by simp [hcodes]))
  rwa [hfailed] at htamed

/-- A session whose host adds two operations, one of which always fails. A line is given up, two
lines make up one text, a blank line and a command follow, and the inputs end within a text. -/
theorem exists_accounts_hosted :
    let s := ((Session.new (.usual .warn)).register (text "scope") .scope).register (text "boom")
      (.failing (text "boom"))
    let inputs : List Keyboard := [.line (text "(def x"), .aborted, .line (text "(def x"),
      .line (text "  (boom))"), .line (text " "), .line (text ":env"), .line (text "(scope x")]
    ∃ chunks, Accounts s false inputs chunks ∧
      ((start s false).course inputs).ending = .finished ∧
      ∀ before code after, chunks.filterMap Chunk.code? = before ++ code :: after →
        ∀ result, ((s.afterRuns before).run code).1 = .failed result →
          result.failure.isIncomplete = false := by
  intro s inputs
  have hbase : (Session.new (.usual .warn)).registry.Tame := Registry.tame_base
  have hscope := Session.tame_register hbase (text "scope") Operation.tame_scope
  have htame : s.registry.Tame :=
    Session.tame_register hscope (text "boom") (Operation.tame_failing (text "boom"))
  obtain ⟨chunks, haccounts, hreturns⟩ := exists_accounts s false inputs
  exact ⟨chunks, haccounts, hreturns htame rfl⟩

end Repl

end Lisplet
