import Lisplet.Proofs.Evaluator.Frame

/-!
# What an evaluation sees of its environment

An evaluation learns about its environment by looking names up and by asking which names the
environment itself holds. Two environments that give the same answers cannot be told apart, however
many scopes there are around each of them. Whatever is evaluated in both, the outcomes are the same,
and the environments give the same answers afterwards.
-/

namespace Lisplet

namespace Heap

/-- Two environments give the same answers. -/
structure Alike (h : Heap) (e : ScopeId) (h' : Heap) (e' : ScopeId) : Prop where
  /-- A name has the same value in both, or none. -/
  lookup?_eq : ∀ name, h.lookup? e name = h'.lookup? e' name
  /-- Both hold the same names themselves. -/
  hasLocal_eq : ∀ name, h.hasLocal e name = h'.hasLocal e' name

variable {h h' : Heap} {e e' : ScopeId}

/-- A binding in the innermost scope hides whatever the scopes around it hold. -/
theorem Alike.set (halike : h.Alike e h' e') (he : e < h.scopes.size) (he' : e' < h'.scopes.size)
    (name : Text) (value : Value) : (h.set e name value).Alike e (h'.set e' name value) e' where
  lookup?_eq other := by rw [lookup?_set he, lookup?_set he', halike.lookup?_eq]
  hasLocal_eq other := by rw [hasLocal_set he, hasLocal_set he', halike.hasLocal_eq]

/-- Where a name is bound does not matter to the one who replaces its value. -/
theorem Alike.assign (halike : h.Alike e h' e') (name : Text) (value : Value) :
    ((h.assign? e name value).getD h).Alike e ((h'.assign? e' name value).getD h') e' where
  lookup?_eq other := by
    have hhas : h.has e name = h'.has e' name := by
      rw [has_eq_isSome_lookup?, has_eq_isSome_lookup?, halike.lookup?_eq]
    rw [lookup?_assign, lookup?_assign, hhas, halike.lookup?_eq]
  hasLocal_eq other := by
    rw [hasLocal, hasLocal, holds_assign, holds_assign]
    exact halike.hasLocal_eq other

/-- A scope without names of its own gives the same answers as a new scope in it. -/
theorem Alike.push (he : e < h.scopes.size) (hempty : ∀ name, h.hasLocal e name = false) :
    h.Alike e (h.push e).2 (h.push e).1 where
  lookup?_eq name := (h.lookup?_push he name).symm
  hasLocal_eq name := by rw [hempty, hasLocal_push]

end Heap

/-! ### Evaluations in two environments -/

/-- Two worlds that differ in their environments only, and these give the same answers. -/
structure World.Alike (env env' : ScopeId) (w w' : World) : Prop where
  /-- The environments give the same answers. -/
  heap : w.heap.Alike env w'.heap env'
  /-- There is the first environment. -/
  lt_size : env < w.heap.scopes.size
  /-- There is the second environment. -/
  lt_size' : env' < w'.heap.scopes.size
  /-- All else is the same. -/
  eq_with_heap : w' = { w with heap := w'.heap }

namespace World.Alike

variable {env env' : ScopeId} {w w' : World}

/-- A message is logged in both worlds. -/
theorem noted (halike : World.Alike env env' w w') (taken level : Log.Level) (message : Text) :
    World.Alike env env' (w.noted taken level message) (w'.noted taken level message) where
  heap := by simpa using halike.heap
  lt_size := by simpa using halike.lt_size
  lt_size' := by simpa using halike.lt_size'
  eq_with_heap := by
    rw [halike.eq_with_heap, World.noted, World.noted]
    split <;> rfl

/-- An evaluation begins in both worlds. -/
theorem entered (halike : World.Alike env env' w w') :
    World.Alike env env' w.entered w'.entered where
  heap := halike.heap
  lt_size := halike.lt_size
  lt_size' := halike.lt_size'
  eq_with_heap := by
    rw [halike.eq_with_heap]
    rfl

/-- An evaluation ends in both worlds. -/
theorem exited (halike : World.Alike env env' w w') :
    World.Alike env env' w.exited w'.exited where
  heap := halike.heap
  lt_size := halike.lt_size
  lt_size' := halike.lt_size'
  eq_with_heap := by
    rw [halike.eq_with_heap]
    rfl

/-- The environments may be replaced within their frames. -/
theorem framed (halike : World.Alike env env' w w') {h h' : Heap} (hframed : w.heap.Framed env h)
    (hframed' : w'.heap.Framed env' h') (hheap : h.Alike env h' env') :
    World.Alike env env' { w with heap := h } { w' with heap := h' } where
  heap := hheap
  lt_size := by
    rw [hframed.size_eq]
    exact halike.lt_size
  lt_size' := by
    rw [hframed'.size_eq]
    exact halike.lt_size'
  eq_with_heap := by rw [halike.eq_with_heap]

end World.Alike

variable (p : Policies) (env env' : ScopeId)

/-- Evaluations in two environments. -/
def observed : Simulation p p env env' where
  Worlds := World.Alike env env'
  Result _ := True
  Stops s w s' w' := s = s' ∧ World.Alike env env' w w'
  Waived _ := False

/-- An evaluation asks an environment for values and for its own names only. -/
theorem observed_lawful : (observed p env env').Lawful where
  result_of_isInert _ := trivial
  lookup?_eq hworlds name := hworlds.heap.lookup?_eq name
  result_of_lookup? _ _ := trivial
  hasLocal_eq hworlds name := hworlds.heap.hasLocal_eq name
  noted message hworlds _ := hworlds.noted _ _ message
  misused e hworlds := ⟨rfl, hworlds.noted _ _ e.message⟩
  defined name v hworlds _ := hworlds.framed (.set _ _ name v) (.set _ _ name v)
    (hworlds.heap.set hworlds.lt_size hworlds.lt_size' name v)
  assigned name v hworlds _ := hworlds.framed (.assign _ _ name v) (.assign _ _ name v)
    (hworlds.heap.assign name v)

/-- Counting evaluations does not touch the environments. -/
theorem observed_nests : (observed p env env').Nests where
  entered hworlds := hworlds.entered
  exited hworlds := hworlds.exited
  stopped hstops := ⟨hstops.1, hstops.2.exited⟩

/-- The evaluator has the same room in both environments, so it goes the same way in them. -/
theorem observed_evaluate (e : Value) :
    (observed p env env').Simulates (fun _ => True) (Registry.base.evaluate env e)
      (Registry.base.evaluate env' e) := by
  refine (observed_lawful p env env').evaluate rfl (observed_nests p env env') ?_ ?_ e
  · intro w w' hworlds
    rw [hworlds.eq_with_heap]
  · intro w w' e hworlds
    exact ⟨rfl, hworlds⟩

/-- Calls in two environments that give the same answers have the same outcome. They leave the same
log and count behind, and environments that again give the same answers. -/
theorem call_of_alike {env env' : ScopeId} {h h' : Heap} (c : Call) (halike : h.Alike env h' env')
    (henv : env < h.scopes.size) (henv' : env' < h'.scopes.size) (w : World) :
    ∃ (outcome : Outcome Value) (after : World) (heap' : Heap),
      c.run Registry.base.evaluate env p { w with heap := h } = (outcome, after) ∧
        c.run Registry.base.evaluate env' p { w with heap := h' } =
          (outcome, { after with heap := heap' }) ∧
        after.heap.Alike env heap' env' := by
  have hcall := (observed_lawful p env env').call (observed_evaluate p env env')
    (fun hworlds => ⟨rfl, hworlds⟩) c
  have hworlds : World.Alike env env' { w with heap := h } { w with heap := h' } :=
    ⟨halike, henv, henv', rfl⟩
  have hrelated := hcall hworlds
  generalize c.run Registry.base.evaluate env p { w with heap := h } = first at hrelated ⊢
  generalize c.run Registry.base.evaluate env' p { w with heap := h' } = second at hrelated ⊢
  cases hrelated with
  | @value v after after' _ hafter =>
    refine ⟨.value v, after, after'.heap, rfl, ?_, hafter.heap⟩
    rw [← hafter.eq_with_heap]
  | @stop s _ after after' hstops =>
    obtain ⟨rfl, hafter⟩ := hstops
    refine ⟨s.outcome, after, after'.heap, rfl, ?_, hafter.heap⟩
    rw [← hafter.eq_with_heap]
  | waived hwaived => exact hwaived.elim

/-- A root that binds a name, and a scope in it. -/
def Heap.bound : Heap := ((Heap.empty.newRoot.2.set 0 (text "x") (.bool true)).push 0).2

/-- The binding of the root is replaced from one and from two scopes inside. -/
theorem call_of_alike_bound :
    Heap.bound.Alike 1 (Heap.bound.push 1).2 2 ∧
      ∃ (outcome : Outcome Value) (after : World) (heap' : Heap),
        (Call.code (text "(set x #f)")).run Registry.base.evaluate 1 (.usual .warn)
            ⟨Heap.bound, [], 0, 0⟩ = (outcome, after) ∧
          (Call.code (text "(set x #f)")).run Registry.base.evaluate 2 (.usual .warn)
            ⟨(Heap.bound.push 1).2, [], 0, 0⟩ = (outcome, { after with heap := heap' }) ∧
          after.heap.Alike 1 heap' 2 := by
  have halike : Heap.bound.Alike 1 (Heap.bound.push 1).2 2 :=
    .push (by decide) fun name => Heap.hasLocal_push _ 0 name
  exact ⟨halike, call_of_alike (.usual .warn) (.code (text "(set x #f)")) halike (by decide)
    (by decide) ⟨Heap.bound, [], 0, 0⟩⟩

end Lisplet
