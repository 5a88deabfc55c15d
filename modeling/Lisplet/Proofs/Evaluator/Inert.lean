import Lisplet.Proofs.Evaluator.Invariant

/-!
# Results that evaluate to themselves

Symbols and lists with items are programs: evaluating them gives something else. All other values
are inert. An environment in which every name has an inert value stays one, whatever is evaluated in
it, and every result is inert too. In such an environment, evaluating a result once more gives it
back, unless it is a text, which is read as a program.
-/

namespace Lisplet

namespace Heap

/-- Every name that is bound in an environment has an inert value. -/
def Inert (h : Heap) (env : ScopeId) : Prop :=
  ∀ name v, h.lookup? env name = some v → v.isInert = true

variable {h : Heap} {env : ScopeId}

/-- Writing an inert value keeps all values inert. -/
theorem Inert.write (hinert : h.Inert env) (s : ScopeId) (key : Text) {value : Value}
    (hvalue : value.isInert = true) : (h.write s key value).Inert env := by
  intro name v hlookup
  rw [lookup?_write] at hlookup
  split at hlookup
  · obtain rfl := Option.some.inj hlookup
    exact hvalue
  · exact hinert name v hlookup

/-- Binding a name to an inert value keeps all values inert. -/
theorem Inert.set (hinert : h.Inert env) (name : Text) {value : Value}
    (hvalue : value.isInert = true) : (h.set env name value).Inert env := by
  rw [Heap.set, Value.clone_eq]
  exact hinert.write env name.nfc hvalue

/-- Replacing a binding by an inert value keeps all values inert. -/
theorem Inert.assign (hinert : h.Inert env) (name : Text) {value : Value}
    (hvalue : value.isInert = true) : ((h.assign? env name value).getD h).Inert env := by
  rw [assign?, Value.clone_eq]
  cases h.resolve? env name with
  | none => exact hinert
  | some s => exact hinert.write s name.nfc hvalue

/-- A new root binds nothing. -/
theorem inert_newRoot (h : Heap) : h.newRoot.2.Inert h.newRoot.1 := by
  intro name v hlookup
  have hchain : h.newRoot.2.chain h.newRoot.1 = [h.newRoot.1] := by
    rw [newRoot, chain, outer?_new_self]
  rw [lookup?_eq_findSome?, hchain, List.findSome?_singleton, newRoot, bindings_new_self] at hlookup
  cases hlookup

end Heap

/-! ### Evaluations -/

/-- Inert values as a property that evaluations keep. -/
def inert (p : Policies) (env : ScopeId) : Invariant p env :=
  .onHeap p env (fun h => h.Inert env) fun v => v.isInert = true

variable (p : Policies) (env : ScopeId)

/-- What an evaluation binds is the result of another. -/
theorem inert_lawful : (inert p env).Lawful := by
  refine Invariant.onHeap_lawful id ?_ (fun name _ hgood hv => hgood.set name hv)
    (fun name _ hgood hv => hgood.assign name hv)
  intro h name v hgood hlookup
  rw [Value.clone_eq]
  exact hgood name v hlookup

/-- A call in an environment with inert values gives an inert value and leaves such an
environment. -/
theorem inert_call (c : Call) {w : World} (hinert : w.heap.Inert env) :
    (c.run Registry.base.evaluate env p w).2.heap.Inert env ∧
      ∀ v, (c.run Registry.base.evaluate env p w).1 = .value v → v.isInert = true := by
  have hself := (inert_lawful p env).evaluate Invariant.onHeap_nests
  have hcall := (inert_lawful p env).call hself id c
  exact Invariant.good_of_ends (hcall hinert)

variable {p env}

/-- An inert value evaluates to itself, where a value without a kind counts as absence. Nothing is
done besides. -/
theorem evaluateWithin_inert {v : Value} (hv : v.isInert = true) (r : Registry) (room : Nat)
    (w : World) :
    r.evaluateWithin (room + 1) env v p w =
      (.value (if v.isNil then .nil else v), w.entered.exited) := by
  rw [Registry.evaluateWithin_succ_apply]
  cases v with
  | sym _ => cases hv
  | list items =>
    cases items with
    | nil => rfl
    | cons _ _ => cases hv
  | _ => rfl

/-- An inert value evaluates to itself, up to the two forms of absence. -/
theorem evaluateWithin_of_isInert {v : Value} (hv : v.isInert = true) (r : Registry) (room : Nat)
    (w : World) :
    (r.evaluateWithin (room + 1) env v p w).1 = .value (if v.isNil then .nil else v) := by
  rw [evaluateWithin_inert hv]

/-- The form that evaluates twice gives the value of its argument back, if this is inert and no
text. -/
theorem evaluate_eval_of_isInert {head x v : Value} {rest : List Value} {w w' : World}
    (hhead : head.headText = text "eval")
    (hx : Registry.base.evaluate env x p w.entered = (.value v, w')) (hv : v.isInert = true)
    (htext : ∀ t, v ≠ .str t) :
    (Registry.base.evaluate env (.list (head :: x :: rest)) p w).1 =
      .value (if v.isNil then .nil else v) := by
  have hlimit : w.depth + 1 < p.limit := by
    by_contra hlimit
    have hroom : p.limit - w.entered.depth = 0 := by
      simp only [World.entered]
      omega
    rw [Registry.evaluate, hroom] at hx
    cases hx
  obtain ⟨room, hroom⟩ : ∃ room, p.limit - w.depth = room + 1 + 1 :=
    ⟨p.limit - w.depth - 2, by omega⟩
  have hroom' : p.limit - w.entered.depth = room + 1 := by
    simp only [World.entered]
    omega
  rw [Registry.evaluate, hroom'] at hx
  have htwice : Operation.eval (Registry.base.evaluateWithin (room + 1)) env (x :: rest) p w.entered
      = Registry.base.evaluateWithin (room + 1) env v p w' := by
    rw [Operation.eval, Evaluation.bind_of_value hx]
    cases v with
    | str t => exact absurd rfl (htext t)
    | _ => rfl
  have happly : Registry.base.apply (Registry.base.evaluateWithin (room + 1)) env (text "eval")
      (x :: rest) = Operation.eval (Registry.base.evaluateWithin (room + 1)) env (x :: rest) := rfl
  rw [Registry.evaluate, hroom, Registry.evaluateWithin_succ_apply, Registry.step, hhead, happly,
    htwice]
  exact evaluateWithin_of_isInert hv Registry.base room w'

/-! ### Sessions -/

namespace Session

/-- What a session answers to a call in an environment. -/
def call (s : Session) (env : ScopeId) : Call → Outcome Value × Session
  | .expression e => s.evaluateIn env e
  | .code t => s.evalIn env t
  | .script t => s.runIn env t

/-- What a session answers to several calls in an environment, one after the other. -/
def calls (s : Session) (env : ScopeId) : List Call → List (Outcome Value) × Session
  | [] => ([], s)
  | c :: rest =>
    ((s.call env c).1 :: ((s.call env c).2.calls env rest).1, ((s.call env c).2.calls env rest).2)

/-- The session while one evaluation is in progress. -/
def inside (s : Session) : Session := { s with world := s.world.entered }

/-- A call is one evaluation in the world of the session. -/
theorem call_eq (s : Session) (env : ScopeId) (c : Call) :
    s.call env c = s.perform (c.run s.registry.evaluate env) := by
  cases c <;> rfl

/-- A call registers nothing. -/
@[simp] theorem registry_call (s : Session) (env : ScopeId) (c : Call) :
    (s.call env c).2.registry = s.registry := by
  rw [call_eq]
  rfl

/-- Calls register nothing. -/
@[simp] theorem registry_calls (s : Session) (env : ScopeId) (cs : List Call) :
    (s.calls env cs).2.registry = s.registry := by
  induction cs generalizing s with
  | nil => rfl
  | cons c rest ih => rw [calls, ih, registry_call]

/-- One call keeps the values of names inert. -/
theorem inert_call {s : Session} (hbase : s.registry = .base)
    (hinert : s.world.heap.Inert env) (c : Call) :
    (s.call env c).2.world.heap.Inert env ∧
      ∀ v, (s.call env c).1 = .value v → v.isInert = true := by
  rw [call_eq, hbase]
  exact Lisplet.inert_call s.policies env c hinert

/-- Any number of calls keeps the values of names inert. -/
theorem inert_calls {s : Session} (hbase : s.registry = .base)
    (hinert : s.world.heap.Inert env) (cs : List Call) :
    (s.calls env cs).2.world.heap.Inert env ∧
      ∀ v, .value v ∈ (s.calls env cs).1 → v.isInert = true := by
  induction cs generalizing s with
  | nil => exact ⟨hinert, by simp [calls]⟩
  | cons c rest ih =>
    obtain ⟨hinert', hresult⟩ := inert_call hbase hinert c
    obtain ⟨hrest, hresults⟩ := ih (by rw [registry_call, hbase]) hinert'
    refine ⟨hrest, ?_⟩
    intro v hv
    rw [calls, List.mem_cons] at hv
    rcases hv with hv | hv
    · exact hresult v hv.symm
    · exact hresults v hv

/-- Where every name has an inert value, all calls give inert values and keep it so. From then on,
evaluating the value of an expression once more gives this value back, unless it is a text. A value
without a kind counts as absence. -/
theorem inert_of_calls (s : Session) (hbase : s.registry = .base) (env : ScopeId)
    (hinert : s.world.heap.Inert env) (cs : List Call) :
    (∀ v, .value v ∈ (s.calls env cs).1 → v.isInert = true) ∧
      (s.calls env cs).2.world.heap.Inert env ∧
      ∀ (head x v : Value) (rest : List Value), head.headText = text "eval" →
        ((s.calls env cs).2.inside.evaluateIn env x).1 = .value v → (∀ t, v ≠ .str t) →
        ((s.calls env cs).2.evaluateIn env (.list (head :: x :: rest))).1 =
          .value (if v.isNil then .nil else v) := by
  obtain ⟨hafter, hresults⟩ := inert_calls hbase hinert cs
  refine ⟨hresults, hafter, ?_⟩
  intro head x v rest hhead hx htext
  have hbase' : (s.calls env cs).2.inside.registry = .base := by
    rw [← hbase, ← s.registry_calls env cs]
    rfl
  generalize (s.calls env cs).2 = s' at *
  have hv := (inert_call hbase' hafter (.expression x)).2 v hx
  have hregistry : s'.registry = .base := hbase'
  simp only [evaluateIn, perform, inside, hregistry] at hx ⊢
  exact evaluate_eval_of_isInert hhead (Prod.ext hx rfl) hv htext

/-- A new session after a definition: a definition whose value is evaluated twice. -/
theorem inert_of_calls_definition :
    (∀ v, .value v ∈ ((Session.new (.usual .warn)).calls 0 [.code (text "(def x #t)")]).1 →
      v.isInert = true) ∧
    ((Session.new (.usual .warn)).calls 0 [.code (text "(def x #t)")]).2.world.heap.Inert 0 ∧
    (((Session.new (.usual .warn)).calls 0 [.code (text "(def x #t)")]).2.evaluateIn 0
      (.list [.sym (text "eval"),
        .list [.sym (text "def"), .sym (text "y"), .bool false]])).1 = .value (.bool false) := by
  have hinert : (Session.new (.usual .warn)).world.heap.Inert 0 := Heap.inert_newRoot .empty
  obtain ⟨hresults, hafter, htwice⟩ :=
    inert_of_calls (Session.new (.usual .warn)) rfl 0 hinert [.code (text "(def x #t)")]
  refine ⟨hresults, hafter, htwice (.sym (text "eval")) _ (.bool false) [] rfl rfl ?_⟩
  intro t h
  cases h

end Session

end Lisplet
