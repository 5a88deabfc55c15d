import Mathlib.Data.List.Forall2
import Lisplet.Command.Basic
import Lisplet.Proofs.Reader.Lines
import Lisplet.Proofs.Settings

/-!
# Definitions on a command line

A definition is an argument with a name in front of its first equals sign and a literal behind it.
All definitions are made on top of what is configured, in their order, so for each canonical name
the last one counts. The first argument that is no definition ends the command with its error.
-/

namespace Lisplet

namespace Text

variable {mark : UInt8} {front t : Text}

/-- A text is cut at the first mark. -/
theorem cut?_append (hfront : mark ∉ front) (rest : Text) :
    cut? mark (front ++ mark :: rest) = some (front, rest) := by
  induction front with
  | nil => simp [cut?]
  | cons b front ih =>
    rw [List.mem_cons, not_or] at hfront
    have hb : (b == mark) = false := beq_eq_false_iff_ne.mpr (Ne.symm hfront.1)
    rw [List.cons_append, cut?, hb, ih hfront.2]
    rfl

end Text

namespace Command

/-! ### Arguments -/

/-- An argument that defines a name as a value. In front of the first equals sign, which is the
byte 61, is the name, in which not all is white space. Behind it is a text whose first form is the
value. -/
inductive Defines : Text → Text → Value → Prop
  | intro {front literal : Text} {v : Value} (hfront : 61 ∉ front)
    (hname : ∃ r ∈ front.runes, r.isBlank = false) (hliteral : Lisplet.parse literal = .ok v) :
    Defines (front ++ 61 :: literal) front.trim v

variable {t name : Text} {v : Value} {f : Failure}

/-- An argument defines one name as one value, since there is one first equals sign. -/
theorem Defines.unique {name' : Text} {v' : Value} (h : Defines t name v)
    (h' : Defines t name' v') : name = name' ∧ v = v' := by
  have hcut : ∀ {name v}, Defines t name v → ∃ front literal,
      t.cut? 61 = some (front, literal) ∧ front.trim = name ∧ Lisplet.parse literal = .ok v := by
    rintro _ _ ⟨hfront, -, hliteral⟩
    exact ⟨_, _, Text.cut?_append hfront _, rfl, hliteral⟩
  obtain ⟨front, literal, hparts, rfl, hliteral⟩ := hcut h
  obtain ⟨front', literal', hparts', rfl, hliteral'⟩ := hcut h'
  obtain ⟨rfl, rfl⟩ := Prod.mk.inj (Option.some.inj (hparts.symm.trans hparts'))
  exact ⟨rfl, Except.ok.inj (hliteral.symm.trans hliteral')⟩

variable {arguments : List Text} {pairs : List (Text × Value)}

/-- No argument defines a name with a canonical form. -/
def Free (arguments : List Text) (key : Text) : Prop :=
  ∀ t ∈ arguments, ∀ name v, Defines t name v → name.nfc ≠ key

/-- A session whose root holds what is configured and what is defined on top of it. -/
structure Holds (session : Session) (entries : List (Text × Config.Datum))
    (arguments : List Text) : Prop where
  /-- A name has the value of its last definition. -/
  defined : ∀ front t back name v, arguments = front ++ t :: back → Defines t name v →
    Free back name.nfc →
      (session.world.heap.bindings session.root).get? name.nfc = some v
  /-- A configured name without a definition has the value that is configured. -/
  configured : ∀ entry ∈ entries, Free arguments entry.1.nfc →
    ∃ v, Config.Settings.Gives entries entry.1.nfc v ∧
      (session.world.heap.bindings session.root).get? entry.1.nfc = some v
  /-- The root holds no other name. -/
  nothing_else : ∀ key, (∀ entry ∈ entries, entry.1.nfc ≠ key) → Free arguments key →
    (session.world.heap.bindings session.root).get? key = none
  /-- There is no scope around the root. -/
  outermost : session.world.heap.outer? session.root = none

end Command

end Lisplet
