import Lisplet.Proofs.Evaluator.Simulation
import Mathlib.Data.List.Find

/-!
# Calls of registered operations

A symbol is kept in canonical form, and a registry keeps each operation under the name it was
registered with, in the spelling of the host. A call by a symbol therefore finds the operation that
was registered last under exactly the canonical spelling of its name. This is the one registered
last under any equivalent spelling, as long as hosts register canonical names only. An operation
under another spelling cannot be called. Environments know no such difference.
-/

namespace Lisplet

/-- A name and the operation that is registered under it. -/
abbrev Registration := Text × Operation

/-! ### What a call finds -/

/-- The call of an operation that nobody registered. -/
def Operation.unknown (name : Text) : Operation := fun _ _ _ => do
  Evaluation.note .debug (text "unknown operator " ++ name.quoted ++ text " evaluates to nil")
  pure .nil

namespace Registry

/-- A name that is no special form calls the operation registered under it, and without one the call
is that of an unknown operation. -/
theorem apply_of_not_special (r : Registry) (self : Evaluator) (env : ScopeId) {name : Text}
    (hname : isSpecialForm name = false) (args : List Value) :
    r.apply self env name args = ((r.get? name).getD (.unknown name)) self env args := by
  rw [isSpecialForm, Option.isSome_eq_false_iff, Option.isNone_iff_eq_none] at hname
  rw [apply, hname]
  cases r.get? name <;> rfl

/-- The registry after some registrations, one after the other. -/
def insertAll (r : Registry) (registrations : List Registration) : Registry :=
  registrations.foldl (fun r entry => Dictionary.insert entry.1 entry.2 r) r

/-- The operation registered last under one of some names, where the base operations come before
all others. -/
def latest? (registrations : List Registration) (named : Text → Bool) : Option Operation :=
  ((registrations.reverse ++ base.entries).find? fun entry => named entry.1).map Prod.snd

/-- What a registry finds is its entry under exactly this name. -/
theorem get?_eq_find? (r : Registry) (name : Text) :
    r.get? name = (r.entries.find? fun entry => entry.1 == name).map Prod.snd := by
  rw [Dictionary.get?]
  induction r.entries with
  | nil => rfl
  | cons entry rest ih =>
    rw [Dictionary.lookup_cons_eq, List.find?_cons, ih]
    by_cases hname : entry.1 = name
    · rw [if_pos hname, beq_iff_eq.mpr hname, Option.map_some]
    · rw [if_neg hname, beq_eq_false_iff_ne.mpr hname]

/-- After some registrations a name finds the last one under exactly this name. -/
theorem get?_insertAll (registrations : List Registration) (name : Text) :
    (base.insertAll registrations).get? name = latest? registrations (· == name) := by
  -- The last registration is looked at first, so the induction is on the list from behind.
  induction registrations using List.reverseRecOn with
  | nil => exact get?_eq_find? base name
  | append_singleton registrations entry ih =>
    rw [insertAll] at ih
    rw [insertAll, List.foldl_append, List.foldl_cons, List.foldl_nil, Dictionary.get?_insert, ih,
      latest?, latest?, List.reverse_concat, List.cons_append, List.find?_cons]
    by_cases hname : entry.1 = name
    · rw [if_pos hname, beq_iff_eq.mpr hname, Option.map_some]
    · rw [if_neg hname, beq_eq_false_iff_ne.mpr hname]

/-- The names of the base operations are canonical. -/
theorem nfc_of_mem_base {entry : Registration} (hentry : entry ∈ base.entries) :
    entry.1.nfc = entry.1 := by
  have hall : ∀ name ∈ base.keys, name.nfc = name := by decide +kernel
  exact hall _ (List.mem_map_of_mem hentry)

/-- Where the equivalent names are all spelled canonically, it does not matter which spelling is
looked for. -/
theorem latest?_canonical {registrations : List Registration} {name : Text}
    (hname : name.nfc.nfc = name.nfc)
    (hcanonical : ∀ entry ∈ registrations, entry.1.nfc = name.nfc → entry.1 = name.nfc) :
    latest? registrations (· == name.nfc) = latest? registrations (·.nfc == name.nfc) := by
  rw [latest?, latest?]
  congr 1
  refine List.find?_congr fun entry hentry => ?_
  rw [Bool.eq_iff_iff, beq_iff_eq, beq_iff_eq]
  constructor
  · intro hspelled
    rw [hspelled, hname]
  · intro hequivalent
    rcases List.mem_append.mp hentry with hentry | hentry
    · exact hcanonical entry (List.mem_reverse.mp hentry) hequivalent
    · rwa [nfc_of_mem_base hentry] at hequivalent

end Registry

/-! ### Sessions -/

namespace Session

/-- The session after some registrations, one after the other. -/
def registerAll (s : Session) (registrations : List Registration) : Session :=
  registrations.foldl (fun s entry => s.register entry.1 entry.2) s

/-- Registrations change the registry of a session only. -/
theorem registerAll_eq (s : Session) (registrations : List Registration) :
    s.registerAll registrations =
      { s with registry := s.registry.insertAll registrations } := by
  induction registrations generalizing s with
  | nil => rfl
  | cons entry rest ih => exact ih (s.register entry.1 entry.2)

/-- How a session evaluates what stands inside of a call. -/
def evaluateInside (s : Session) : Evaluator :=
  s.registry.evaluateWithin (s.policies.limit - s.world.depth - 1)

/-- A call by a symbol runs the operation that its canonical name finds. -/
theorem evaluateIn_call (s : Session) {name : Text} (hname : isSpecialForm name.nfc = false)
    (hroom : s.world.depth < s.policies.limit) (env : ScopeId) (args : List Value) :
    s.evaluateIn env (.list (.symbol name :: args)) =
      s.perform (.nested (((s.registry.get? name.nfc).getD (.unknown name.nfc))
        s.evaluateInside env args)) := by
  have hlimit : s.policies.limit - s.world.depth = s.policies.limit - s.world.depth - 1 + 1 := by
    omega
  rw [evaluateIn, perform, perform, Registry.evaluate, hlimit, Registry.evaluateWithin,
    evaluateInside, ← Registry.apply_of_not_special _ _ _ hname]
  rfl

end Session

/-- All that can be done with a name in an environment is the same with another name. -/
structure Heap.Equivalent (h : Heap) (e : ScopeId) (name other : Text) : Prop where
  /-- Both have the same value. -/
  lookup?_eq : h.lookup? e other = h.lookup? e name
  /-- Both or neither are bound. -/
  has_eq : h.has e other = h.has e name
  /-- The environment itself holds both or neither. -/
  hasLocal_eq : h.hasLocal e other = h.hasLocal e name
  /-- Binding one binds the other. -/
  set_eq : ∀ value, h.set e other value = h.set e name value
  /-- Replacing one replaces the other. -/
  assign?_eq : ∀ value, h.assign? e other value = h.assign? e name value

/-- Names with the same canonical spelling are interchangeable. -/
theorem Heap.equivalent_of_nfc_eq (h : Heap) (e : ScopeId) {name other : Text}
    (hother : other.nfc = name.nfc) : h.Equivalent e name other where
  lookup?_eq := by rw [lookup?, lookup?, h.resolve?_congr e hother, hother]
  has_eq := by rw [has, has, h.resolve?_congr e hother]
  hasLocal_eq := by rw [hasLocal, hasLocal, hother]
  set_eq value := by rw [set, set, hother]
  assign?_eq value := by rw [assign?, assign?, h.resolve?_congr e hother, hother]

namespace Session

/-- Whatever was registered, a call by a symbol runs the operation registered last under the
canonical spelling of its name, or nothing if there is none. If all equivalent names were registered
in this spelling, it runs the one registered last under any of them, as environments find a binding
by every equivalent name. -/
theorem evaluateIn_registered (s : Session) (hbase : s.registry = .base)
    (registrations : List Registration) {name : Text} (hname : isSpecialForm name.nfc = false)
    (hroom : s.world.depth < s.policies.limit) (env : ScopeId) (args : List Value) :
    (s.registerAll registrations).evaluateIn env (.list (.symbol name :: args)) =
        (s.registerAll registrations).perform
          (.nested (((Registry.latest? registrations (· == name.nfc)).getD (.unknown name.nfc))
            (s.registerAll registrations).evaluateInside env args)) ∧
      (name.nfc.nfc = name.nfc →
        (∀ entry ∈ registrations, entry.1.nfc = name.nfc → entry.1 = name.nfc) →
        Registry.latest? registrations (· == name.nfc) =
          Registry.latest? registrations (·.nfc == name.nfc)) ∧
      ∀ (h : Heap) (e : ScopeId) (other : Text), other.nfc = name.nfc →
        h.Equivalent e name other := by
  refine ⟨?_, Registry.latest?_canonical, fun h e other => h.equivalent_of_nfc_eq e⟩
  have hfound : (s.registerAll registrations).registry.get? name.nfc =
      Registry.latest? registrations (· == name.nfc) := by
    rw [registerAll_eq, hbase]
    exact Registry.get?_insertAll registrations name.nfc
  rw [← hfound]
  refine evaluateIn_call _ hname ?_ env args
  rwa [registerAll_eq]

/-- A letter and a mark behind it. -/
def decomposed : Text := text "e\u0301"

/-- The letter with the mark, which is the canonical spelling of both. -/
def composed : Text := text "\u00e9"

/-- A session in which an operation is registered twice, under the canonical spelling. -/
theorem evaluateIn_registered_composed :
    decomposed.nfc = composed ∧
      (((Session.new (.usual .warn)).registerAll
          [(composed, .const .nil), (composed, .const (.bool true))]).evaluateIn 0
        (.list [.symbol decomposed])).1 = .value (.bool true) := by
  have hnfc : decomposed.nfc = composed := by decide +kernel
  obtain ⟨hrun, hsame, -⟩ := evaluateIn_registered (Session.new (.usual .warn)) rfl
    [(composed, .const .nil), (composed, .const (.bool true))]
    (show isSpecialForm decomposed.nfc = false by decide +kernel) (by decide) 0 []
  have hlatest : Registry.latest? [(composed, .const .nil), (composed, .const (.bool true))]
      (·.nfc == decomposed.nfc) = some (.const (.bool true)) := by
    rw [Registry.latest?, List.reverse_cons, List.reverse_singleton, List.singleton_append,
      List.cons_append, List.find?_cons_of_pos (by decide +kernel), Option.map_some]
  refine ⟨hnfc, ?_⟩
  rw [hrun, hsame (by decide +kernel) (by simp [hnfc]), hlatest]
  rfl

/-- An operation that was registered under another spelling only is not found. -/
theorem evaluateIn_registered_decomposed :
    isSpecialForm decomposed = false ∧
      Registry.latest? [(decomposed, .const (.bool true))] (·.nfc == decomposed.nfc) =
        some (.const (.bool true)) ∧
      (((Session.new (.usual .warn)).registerAll [(decomposed, .const (.bool true))]).evaluateIn 0
        (.list [.symbol decomposed])).1 = .value .nil := by
  refine ⟨by decide +kernel, ?_, ?_⟩
  · rw [Registry.latest?, List.reverse_singleton, List.singleton_append,
      List.find?_cons_of_pos (by decide +kernel), Option.map_some]
  · have hnone : ((Session.new (.usual .warn)).registerAll
        [(decomposed, .const (.bool true))]).registry.get? decomposed.nfc = none := by
      rw [← Option.isNone_iff_eq_none]
      decide +kernel
    rw [evaluateIn_call _ (by decide +kernel) (by decide), hnone]
    rfl

end Session

end Lisplet
