import Lisplet.Proofs.Evaluator.Dispatch

/-!
# Operations of hosts

An operation that a host registers can fail in ways that the evaluator knows nothing of. It is tame
if it adds neither of two: a failure that more input could mend, and breaking off under the policy
that hands failures back. The base operations are tame. Where all operations are, no evaluation ends
in such a way, and a script does so only if it cannot be read itself.
-/

namespace Lisplet

/-- An outcome without a failure that more input could mend. It is broken off only if the policy
asks for this. -/
def Outcome.Tame {α : Type} (p : Policies) : Outcome α → Prop
  | .value _ => True
  | .failed result => result.failure.isIncomplete = false
  | .aborted failure => failure.isIncomplete = false ∧ p.fatal = .abort

/-- An evaluation all of whose outcomes are tame. -/
def Evaluation.Tame {α : Type} (x : Evaluation α) : Prop := ∀ p w, (x p w).1.Tame p

/-- An evaluator all of whose evaluations are tame. -/
def Evaluator.Tame (self : Evaluator) : Prop := ∀ env e, (self env e).Tame

/-- An operation that is tame if the evaluations inside it are. -/
def Operation.Tame (operation : Operation) : Prop :=
  ∀ self : Evaluator, self.Tame → ∀ env args, (operation self env args).Tame

/-- A registry all of whose operations are tame. -/
def Registry.Tame (r : Registry) : Prop :=
  ∀ name operation, r.get? name = some operation → operation.Tame

/-! ### Putting evaluations together -/

namespace Evaluation

variable {α β : Type}

/-- A result is tame. -/
theorem tame_pure (a : α) : (pure a : Evaluation α).Tame := fun _ _ => trivial

/-- So is a look at the environments. -/
theorem tame_heap : heap.Tame := fun _ _ => trivial

/-- So is a look at the policies. -/
theorem tame_policies : policies.Tame := fun _ _ => trivial

/-- So is a change of the environments. -/
theorem tame_putHeap (h : Heap) : (putHeap h).Tame := fun _ _ => trivial

/-- So is a message. -/
theorem tame_note (level : Log.Level) (message : Text) : (note level message).Tame := by
  intro p w
  rw [note_apply]
  trivial

/-- The misuse of a form is delivered as the policy says. -/
theorem tame_misuse (e : FormError) : (misuse e : Evaluation α).Tame := by
  intro p w
  rw [misuse_apply]
  cases hfatal : p.fatal with
  | fail => exact (rfl : (Failure.misuse e).isIncomplete = false)
  | abort => exact ⟨rfl, hfatal⟩

/-- Tame evaluations are tame one after the other. -/
theorem Tame.bind {x : Evaluation α} {f : α → Evaluation β} (hx : x.Tame)
    (hf : ∀ a, (f a).Tame) : (x >>= f).Tame := by
  intro p w
  have hfirst := hx p w
  simp only [Bind.bind, andThen]
  generalize x p w = out at hfirst ⊢
  rcases out with ⟨a | failure | failure, w'⟩
  · exact hf a p w'
  · exact hfirst
  · exact hfirst

end Evaluation

open Evaluation

section Evaluators

variable {self : Evaluator} (hself : self.Tame) (env : ScopeId)

include hself

/-- The expressions of a sequence. -/
theorem tame_inOrder (last : Value) (args : List Value) : (self.inOrder env last args).Tame := by
  induction args generalizing last with
  | nil => exact tame_pure last
  | cons e rest ih => exact (hself env e).bind ih

/-- An argument as a number. -/
theorem tame_number (e : Value) : (self.number env e).Tame :=
  (hself env e).bind fun v => tame_pure v.asNum

/-- Arguments that are combined to a number. -/
theorem tame_combine (f : Float → Float → Float) (total : Float) (args : List Value) :
    (self.combine env f total args).Tame := by
  induction args generalizing total with
  | nil => exact tame_pure total
  | cons e rest ih => exact (tame_number hself env e).bind fun n => ih (f total n)

/-- Code that cannot be read is logged and evaluates to absence, even if more input could mend
it. -/
theorem tame_evalText (code : Text) : (self.evalText env code).Tame := by
  rw [Evaluator.evalText]
  cases parse code with
  | error e => exact (tame_note _ _).bind fun _ => tame_pure _
  | ok e => exact hself env e

/-- A script is tame unless its own text is unfinished. -/
theorem tame_script {code : Text} (hcode : ∀ e, parseAll code = .error e → e.incomplete = false) :
    (self.script env code).Tame := by
  rw [Evaluator.script]
  cases herror : parseAll code with
  | error e => exact fun _ _ => hcode e herror
  | ok forms => exact tame_inOrder hself env .nil forms

/-! ### Special forms -/

/-- The conditional. -/
theorem tame_conditional (args : List Value) :
    (SpecialForm.runConditional self env args).Tame := by
  rcases args with _ | ⟨condition, _ | ⟨first, rest⟩⟩
  · exact tame_misuse _
  · exact tame_misuse _
  · refine (hself env condition).bind fun c => ?_
    by_cases hc : c.isTruthy = true
    · rw [if_pos hc]
      exact hself env first
    · rw [if_neg hc]
      cases rest with
      | nil => exact tame_pure _
      | cons second _ => exact hself env second

omit hself in
/-- A first argument that is no symbol is a misuse, which no input can mend. -/
theorem tame_symbolOf (form : SpecialForm) (args : List Value) :
    (SpecialForm.symbolOf form args).Tame := by
  cases args with
  | nil => exact tame_misuse _
  | cons v rest =>
    cases v with
    | sym name => exact tame_pure name
    | _ => exact tame_misuse _

/-- The value that a form binds. -/
theorem tame_valueOf (args : List Value) : (SpecialForm.valueOf self env args).Tame := by
  rcases args with _ | ⟨_, _ | ⟨e, _⟩⟩
  · exact tame_pure _
  · exact tame_pure _
  · exact hself env e

/-- Every special form is tame. -/
theorem tame_specialForm (form : SpecialForm) (args : List Value) :
    (form.run self env args).Tame := by
  cases form with
  | sequence => exact tame_inOrder hself env .nil args
  | conditional => exact tame_conditional hself env args
  | define =>
    refine (tame_symbolOf .define args).bind fun name => ?_
    refine (tame_valueOf hself env args).bind fun v => ?_
    exact tame_heap.bind fun h => (tame_putHeap _).bind fun _ => tame_pure v
  | assign =>
    refine (tame_symbolOf .assign args).bind fun name => tame_heap.bind fun h => ?_
    by_cases hbound : h.has env name = true
    · rw [if_pos hbound]
      refine (tame_valueOf hself env args).bind fun v => ?_
      exact tame_heap.bind fun h => (tame_putHeap _).bind fun _ => tame_pure v
    · rw [if_neg hbound]
      exact tame_misuse _
  | function =>
    refine (tame_symbolOf .function args).bind fun name => tame_heap.bind fun h => ?_
    by_cases hbound : h.hasLocal env name = true
    · rw [if_pos hbound]
      exact tame_misuse _
    · rw [if_neg hbound]
      exact tame_pure _

end Evaluators

/-! ### Operations -/

namespace Operation

/-- The operation that evaluates twice is tame. -/
theorem tame_eval : eval.Tame := by
  intro self hself env args
  cases args with
  | nil => exact tame_pure _
  | cons e rest =>
    refine (hself env e).bind fun v => ?_
    cases v with
    | str code => exact tame_evalText hself env code
    | _ => exact hself env _

/-- Subtraction and division are tame, whatever they begin with. -/
theorem tame_fold (f : Float → Float → Float) : (fold f).Tame := by
  intro self hself env args
  cases args with
  | nil => exact tame_pure _
  | cons e rest =>
    have hseed : (seed self env e).Tame := by
      refine tame_policies.bind fun p => ?_
      cases p.seed with
      | raw => exact tame_pure _
      | evaluated => exact tame_number hself env e
    exact hseed.bind fun n => (tame_combine hself env f n rest).bind fun _ => tame_pure _

/-- The comparison is tame. -/
theorem tame_equal : equal.Tame := by
  intro self hself env args
  cases args with
  | nil => exact tame_pure _
  | cons e rest =>
    have hseed : (seedValue self env e).Tame := by
      refine tame_policies.bind fun p => ?_
      cases p.seed with
      | raw => exact tame_pure e
      | evaluated => exact hself env e
    have hrest : ∀ head, (allEqual self env head rest).Tame := by
      intro head
      induction rest with
      | nil => exact tame_pure true
      | cons e rest ih =>
        refine (hself env e).bind fun v => ?_
        by_cases hequal : head.equals v = true
        · rw [if_pos hequal]
          exact ih
        · rw [if_neg hequal]
          exact tame_pure false
    exact hseed.bind fun head => (hrest head).bind fun _ => tame_pure _

/-- An operation that evaluates in a scope of its own is tame. -/
theorem tame_scope : scope.Tame := by
  intro self hself env args
  exact tame_heap.bind fun h => (tame_putHeap _).bind fun _ => tame_inOrder hself _ .nil args

/-- An operation that always fails does so with a failure that is complete. -/
theorem tame_failing (message : Text) : (failing message).Tame :=
  fun _ _ _ _ _ _ => (rfl : (Failure.plain message).isIncomplete = false)

end Operation

namespace Registry

/-- All base operations are tame. -/
theorem tame_base : base.Tame := by
  intro name operation hoperation
  rcases base_cases hoperation with
    ⟨-, rfl⟩ | ⟨-, rfl⟩ | ⟨-, rfl⟩ | ⟨-, rfl⟩ | ⟨-, rfl⟩ | ⟨-, rfl⟩
  · exact Operation.tame_eval
  · exact Operation.tame_equal
  · exact fun self hself env args => (tame_combine hself env _ _ args).bind fun _ => tame_pure _
  · exact fun self hself env args => (tame_combine hself env _ _ args).bind fun _ => tame_pure _
  · exact Operation.tame_fold _
  · exact Operation.tame_fold _

/-- A registry stays tame when a tame operation is registered. -/
theorem Tame.insert {r : Registry} (hr : r.Tame) (name : Text) {operation : Operation}
    (hoperation : operation.Tame) : Registry.Tame (Dictionary.insert name operation r) := by
  intro name' operation' hfound
  rw [Dictionary.get?_insert] at hfound
  split at hfound
  · obtain rfl := Option.some.inj hfound
    exact hoperation
  · exact hr name' operation' hfound

variable {r : Registry}

/-- One step of the evaluator is tame if the evaluations inside it are. -/
theorem Tame.step (hr : r.Tame) {self : Evaluator} (hself : self.Tame) : (r.step self).Tame := by
  intro env e
  cases e with
  | sym name =>
    refine tame_heap.bind fun h => ?_
    cases h.lookup? env name with
    | some v => exact tame_pure v.clone
    | none => exact (tame_note _ _).bind fun _ => tame_pure _
  | list items =>
    cases items with
    | nil => exact tame_pure _
    | cons head args =>
      rw [Registry.step, apply]
      cases SpecialForm.ofName? head.headText with
      | some form => exact tame_specialForm hself env form args
      | none =>
        cases hoperation : r.get? head.headText with
        | some operation => exact hr _ operation hoperation self hself env args
        | none => exact (tame_note _ _).bind fun _ => tame_pure _
  | _ => exact tame_pure _

/-- With tame operations the evaluator is tame, with however much room. -/
theorem Tame.evaluateWithin (hr : r.Tame) (room : Nat) : (r.evaluateWithin room).Tame := by
  induction room with
  | zero => exact fun _ e p w => (rfl : (Failure.tooDeep p.limit e).isIncomplete = false)
  | succ room ih => exact fun env e p w => hr.step ih env e p w.entered

/-- With tame operations the evaluator is tame under every limit. -/
theorem Tame.evaluate (hr : r.Tame) : r.evaluate.Tame :=
  fun env e p w => hr.evaluateWithin (p.limit - w.depth) env e p w

end Registry

end Lisplet
