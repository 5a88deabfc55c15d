import Lisplet.Proofs.Evaluator.Depth

/-!
# Evaluations under two policies

The fatal policy and the limit tell how an evaluation ends where a form is misused or nested too
deeply. No form or operation takes notice of such an end: nothing is evaluated, written or logged
behind it. Therefore evaluations under policies that differ only in this do the same until they end,
and the two fatal policies deliver one and the same error.
-/

namespace Lisplet

/-- Two worlds have the same environments and the same log. -/
structure World.SameView (w w' : World) : Prop where
  /-- The environments are the same. -/
  heap_eq : w.heap = w'.heap
  /-- The log is the same. -/
  log_eq : w.log = w'.log

/-- A message is logged in both worlds or in neither. -/
theorem World.SameView.noted {w w' : World} (hview : w.SameView w') (taken level : Log.Level)
    (message : Text) : (w.noted taken level message).SameView (w'.noted taken level message) where
  heap_eq := by rw [World.heap_noted, World.heap_noted, hview.heap_eq]
  log_eq := by rw [World.log_noted, World.log_noted, hview.log_eq]

namespace Policies

/-- Two policies differ only in how evaluations end. Ends that go together are related. -/
structure Matching (p q : Policies) (Ends : Stop → Stop → Prop) : Prop where
  /-- The first argument of an operation is treated in the same way. -/
  seed_eq : p.seed = q.seed
  /-- The log takes the same messages. -/
  level_eq : p.level = q.level
  /-- The ends for a misused form go together. -/
  misuse : ∀ error, Ends (p.fatal.stop (.misuse error)) (q.fatal.stop (.misuse error))
  /-- The ends beyond the limit go together. -/
  tooDeep : ∀ e, Ends (.failed (.tooDeep p.limit e)) (.failed (.tooDeep q.limit e))

/-- Evaluations under two policies, in one environment. -/
def beside (p q : Policies) (env : ScopeId) (Ends : Stop → Stop → Prop) :
    Simulation p q env env where
  Worlds := World.SameView
  Result _ := True
  Stops s w s' w' := Ends s s' ∧ w.SameView w'
  Waived _ := False

variable {p q : Policies} {Ends : Stop → Stop → Prop}

/-- What an evaluator does to a world does not depend on how evaluations end. -/
theorem Matching.lawful (hmatch : p.Matching q Ends) (env : ScopeId) :
    (p.beside q env Ends).Lawful where
  result_of_isInert _ := trivial
  lookup?_eq hview name := by rw [hview.heap_eq]
  result_of_lookup? _ _ := trivial
  hasLocal_eq hview name := by rw [hview.heap_eq]
  noted message hview _ := by
    rw [hmatch.level_eq]
    exact hview.noted _ _ message
  misused error hview := by
    rw [hmatch.level_eq]
    exact ⟨hmatch.misuse error, hview.noted _ _ error.message⟩
  defined name v hview _ := ⟨by rw [hview.heap_eq], hview.log_eq⟩
  assigned name v hview _ := ⟨by rw [hview.heap_eq], hview.log_eq⟩

/-- The count of evaluations is not part of the view. -/
theorem beside_nests (env : ScopeId) : (p.beside q env Ends).Nests where
  entered hview := ⟨hview.heap_eq, hview.log_eq⟩
  exited hview := ⟨hview.heap_eq, hview.log_eq⟩
  stopped hstops := ⟨hstops.1, hstops.2.heap_eq, hstops.2.log_eq⟩

/-- Evaluations with the same room go side by side. -/
theorem Matching.evaluateWithin (hmatch : p.Matching q Ends) (env : ScopeId) (room : Nat)
    (e : Value) :
    (p.beside q env Ends).Simulates (fun _ => True) (Registry.base.evaluateWithin room env e)
      (Registry.base.evaluateWithin room env e) := by
  have hbottom : ∀ e, (p.beside q env Ends).Simulates (fun _ => True)
      (Registry.base.evaluateWithin 0 env e) (Registry.base.evaluateWithin 0 env e) := by
    intro e w w' hview
    have hstops : (p.beside q env Ends).Stops (.failed (.tooDeep p.limit e)) w
        (.failed (.tooDeep q.limit e)) w' := ⟨hmatch.tooDeep e, hview⟩
    exact .stop hstops
  exact (hmatch.lawful env).evaluateWithin hmatch.seed_eq (beside_nests env) hbottom room e

/-- Evaluations side by side leave the same environments and log. They give the same result, or
their ends go together. -/
theorem related_beside {α : Type} {env : ScopeId} {Q : α → Prop} {out out' : Outcome α × World}
    (h : (p.beside q env Ends).Related Q out out') :
    out.2.SameView out'.2 ∧ ((∃ a, out.1 = .value a ∧ out'.1 = .value a) ∨
      ∃ s s', Ends s s' ∧ out.1 = s.outcome ∧ out'.1 = s'.outcome) := by
  cases h with
  | @value a _ _ _ hview => exact ⟨hview, Or.inl ⟨a, rfl, rfl⟩⟩
  | @stop s s' _ _ hstops => exact ⟨hstops.2, Or.inr ⟨s, s', hstops.1, rfl, rfl⟩⟩
  | waived hwaived => exact hwaived.elim

end Policies

/-! ### The two fatal policies -/

/-- How an evaluation ends under the one fatal policy and under the other. -/
inductive Delivered : Stop → Stop → Prop
  | misuse (error : FormError) : Delivered (.failed (.misuse error)) (.aborted (.misuse error))
  | tooDeep (limit : Nat) (e : Value) :
    Delivered (.failed (.tooDeep limit e)) (.failed (.tooDeep limit e))

/-- The two fatal policies differ only in how a misused form ends. -/
theorem matching_delivered (p : Policies) :
    { p with fatal := .fail }.Matching { p with fatal := .abort } Delivered where
  seed_eq := rfl
  level_eq := rfl
  misuse error := .misuse error
  tooDeep e := .tooDeep p.limit e

/-- The fatal policies differ in delivery only. An evaluation fails with the misuse of a form under
the one exactly if it is broken off with the same error under the other, and every other outcome is
the same. The environments, the log and the count of evaluations are the same in all cases. -/
theorem evaluate_delivers (p : Policies) (env : ScopeId) (e : Value) (w : World) :
    (∀ error, (Registry.base.evaluate env e { p with fatal := .fail } w).1 =
        .failed ⟨.misuse error, .nil⟩ ↔
      (Registry.base.evaluate env e { p with fatal := .abort } w).1 =
        .aborted (.misuse error)) ∧
    ((∀ error, (Registry.base.evaluate env e { p with fatal := .fail } w).1 ≠
        .failed ⟨.misuse error, .nil⟩) →
      (Registry.base.evaluate env e { p with fatal := .abort } w).1 =
        (Registry.base.evaluate env e { p with fatal := .fail } w).1) ∧
    (Registry.base.evaluate env e { p with fatal := .abort } w).2.heap =
      (Registry.base.evaluate env e { p with fatal := .fail } w).2.heap ∧
    (Registry.base.evaluate env e { p with fatal := .abort } w).2.log =
      (Registry.base.evaluate env e { p with fatal := .fail } w).2.log ∧
    (Registry.base.evaluate env e { p with fatal := .abort } w).2.depth =
      (Registry.base.evaluate env e { p with fatal := .fail } w).2.depth := by
  have hdepth := (Depth.counted_evaluate { p with fatal := .fail } env e w).1
  have hdepth' := (Depth.counted_evaluate { p with fatal := .abort } env e w).1
  have hview : w.SameView w := ⟨rfl, rfl⟩
  have hrelated := (matching_delivered p).evaluateWithin env (p.limit - w.depth) e hview
  change ({ p with fatal := .fail }.beside { p with fatal := .abort } env Delivered).Related _
    (Registry.base.evaluate env e { p with fatal := .fail } w)
    (Registry.base.evaluate env e { p with fatal := .abort } w) at hrelated
  obtain ⟨hafter, hends⟩ := Policies.related_beside hrelated
  generalize Registry.base.evaluate env e { p with fatal := .fail } w = out at *
  generalize Registry.base.evaluate env e { p with fatal := .abort } w = out' at *
  refine ⟨?_, ?_, hafter.heap_eq.symm, hafter.log_eq.symm, hdepth'.trans hdepth.symm⟩
  · intro error
    rcases hends with ⟨v, hv, hv'⟩ | ⟨s, s', hdelivered, hs, hs'⟩
    · simp [hv, hv']
    · cases hdelivered <;> simp [hs, hs', Stop.outcome]
  · intro hother
    rcases hends with ⟨v, hv, hv'⟩ | ⟨s, s', hdelivered, hs, hs'⟩
    · rw [hv, hv']
    · cases hdelivered with
      | misuse error => exact absurd hs (hother error)
      | tooDeep limit e => rw [hs, hs']

end Lisplet
