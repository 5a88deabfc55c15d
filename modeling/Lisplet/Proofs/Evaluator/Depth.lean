import Mathlib.Logic.Function.Iterate
import Lisplet.Proofs.Evaluator.Invariant

/-!
# The limit on nesting

The evaluator counts the evaluations in progress and refuses to begin one more where the count has
reached the limit. With this rule alone the recursion of the evaluator ends, whatever code it makes
and runs on the way: the result is fixed by finitely many turns of the recursion. The count never
passes the limit, and at the end it is what it was at the beginning. A higher limit makes no
difference to an evaluation that did not reach the lower one.
-/

namespace Lisplet

/-- One turn of the recursion: an expression is refused where the limit is reached, and counted and
evaluated otherwise. The expressions inside it are left to another evaluator. -/
def Registry.guarded (r : Registry) (self : Evaluator) : Evaluator := fun env e p w =>
  if p.limit ≤ w.depth then (.failed ⟨.tooDeep p.limit e, .nil⟩, w)
  else Evaluation.nested (r.step self env e) p w

namespace Depth

section

variable {p : Policies} {env : ScopeId}

/-! ### The count of evaluations -/

/-- The count is given, and it has never passed a bound. -/
def Counted (depth bound : Nat) (w : World) : Prop := w.depth = depth ∧ w.deepest ≤ bound

/-- The count as a property that evaluations keep. -/
def counted (p : Policies) (env : ScopeId) (depth bound : Nat) : Invariant p env :=
  .always p env (Counted depth bound) fun _ => True

/-- Messages and bindings do not count. -/
theorem counted_lawful (depth bound : Nat) : (counted p env depth bound).Lawful where
  result_of_isInert _ := trivial
  result_of_lookup? _ _ := trivial
  noted message hgood _ := by simpa [counted, Invariant.always, Counted] using hgood
  misused e hgood := by simpa [counted, Invariant.always, Counted] using hgood
  defined _ _ hgood _ := hgood
  assigned _ _ hgood _ := hgood

end

variable (p : Policies) (env : ScopeId)

/-- An evaluation returns to the count at which it began, and does not use more than its room. -/
theorem keeps_evaluateWithin (room : Nat) {depth bound : Nat} (hbound : depth + room ≤ bound)
    (e : Value) :
    (counted p env depth bound).Keeps (fun _ => True)
      (Registry.base.evaluateWithin room env e) := by
  induction room generalizing depth e with
  | zero =>
    intro w hgood
    exact Invariant.Ends.stop (s := .failed (.tooDeep p.limit e)) hgood
  | succ room ih =>
    rintro w ⟨rfl, hdeepest⟩
    -- Everything inside this evaluation happens at a count that is larger by one.
    have hinside : ∀ e, (counted p env (w.depth + 1) bound).Keeps (fun _ => True)
        (Registry.base.evaluateWithin room env e) := ih (by omega)
    have hentered : Counted (w.depth + 1) bound w.entered := by
      refine ⟨rfl, ?_⟩
      simp only [World.entered]
      omega
    have hstep := (counted_lawful _ _).step hinside e hentered
    rw [Registry.evaluateWithin_succ_apply]
    generalize Registry.base.step (Registry.base.evaluateWithin room) env e p w.entered = out
      at hstep
    have hexited : ∀ {u : World}, Counted (w.depth + 1) bound u → Counted w.depth bound u.exited :=
      fun hgood => ⟨by simp only [World.exited, hgood.1, Nat.add_sub_cancel], hgood.2⟩
    cases hstep with
    | value _ hgood => exact .value trivial (hexited hgood)
    | stop hgood => exact .stop (hexited hgood)

/-- Wherever the count stands, evaluations leave it there. -/
theorem keeps_evaluate {depth bound : Nat} (hbound : p.limit ≤ bound) (e : Value) :
    (counted p env depth bound).Keeps (fun _ => True) (Registry.base.evaluate env e) := by
  rintro w ⟨rfl, hdeepest⟩
  rw [Registry.evaluate]
  by_cases hlimit : p.limit ≤ w.depth
  · have hroom : p.limit - w.depth = 0 := by omega
    rw [hroom]
    exact Invariant.Ends.stop (s := .failed (.tooDeep p.limit e)) ⟨rfl, hdeepest⟩
  · exact keeps_evaluateWithin p env _ (by omega) e ⟨rfl, hdeepest⟩

/-- From any world the count goes back to where it was, and it never passes the limit unless it had
done so before. -/
theorem ends_evaluate (e : Value) (w : World) :
    (counted p env w.depth (max w.deepest p.limit)).Ends (fun _ => True)
      (Registry.base.evaluate env e p w) :=
  keeps_evaluate p env (Nat.le_max_right ..) e ⟨rfl, Nat.le_max_left ..⟩

/-- The count never passes the limit, unless it had done so before. -/
theorem counted_evaluate (e : Value) (w : World) :
    Counted w.depth (max w.deepest p.limit) (Registry.base.evaluate env e p w).2 :=
  (Invariant.good_of_ends (ends_evaluate p env e w)).1

/-- An evaluation has a value or is stopped. -/
theorem value_or_stop (e : Value) (w : World) :
    (∃ v u, Registry.base.evaluate env e p w = (.value v, u)) ∨
      ∃ (s : Stop) (u : World), Registry.base.evaluate env e p w = (s.outcome, u) := by
  have hends := ends_evaluate p env e w
  generalize Registry.base.evaluate env e p w = out at hends ⊢
  cases hends with
  | @value v u _ _ => exact .inl ⟨v, u, rfl⟩
  | @stop s u _ => exact .inr ⟨s, u, rfl⟩

/-! ### The recursion of the evaluator -/

/-- Evaluators that do the same as the evaluator at some count go side by side with it. -/
theorem simulates_evaluate {depth bound : Nat} (hbound : p.limit ≤ bound) {self : Evaluator}
    (hself : ∀ e w, w.depth = depth → Registry.base.evaluate env e p w = self env e p w)
    (e : Value) :
    (counted p env depth bound).diagonal.Simulates (fun _ => True)
      (Registry.base.evaluate env e) (self env e) := by
  rw [Invariant.simulates_diagonal_iff]
  refine ⟨keeps_evaluate p env hbound e, ?_⟩
  intro w hw
  exact hself e w hw.1

/-- One turn of the recursion is the same for evaluators that do the same one level deeper. -/
theorem guarded_evaluate_congr {self : Evaluator} (e : Value) (w : World)
    (hself : ∀ e u, u.depth = w.depth + 1 → w.depth < p.limit →
      Registry.base.evaluate env e p u = self env e p u) :
    Registry.base.guarded Registry.base.evaluate env e p w =
      Registry.base.guarded self env e p w := by
  rw [Registry.guarded, Registry.guarded]
  by_cases hlimit : p.limit ≤ w.depth
  · rw [if_pos hlimit, if_pos hlimit]
  · rw [if_neg hlimit, if_neg hlimit, Evaluation.nested_apply, Evaluation.nested_apply]
    have hinside := simulates_evaluate p env (Nat.le_max_right w.entered.deepest p.limit)
      fun e u hu => hself e u hu (by omega)
    have hstep := (counted_lawful _ _).diagonal.step rfl hinside e
    have hsame := (Invariant.simulates_diagonal_iff.mp hstep).2 w.entered
      ⟨rfl, Nat.le_max_left ..⟩
    rw [hsame]

/-- The evaluator is the same as one turn of its recursion: the limit on the count is all that
bounds it. -/
theorem guarded_evaluate :
    Registry.base.guarded Registry.base.evaluate = Registry.base.evaluate := by
  funext env e p w
  by_cases hlimit : p.limit ≤ w.depth
  · have hroom : p.limit - w.depth = 0 := by omega
    rw [Registry.guarded, if_pos hlimit, Registry.evaluate, hroom]
    rfl
  · obtain ⟨room, hroom⟩ : ∃ room, p.limit - w.depth = room + 1 :=
      ⟨p.limit - w.depth - 1, by omega⟩
    have hinside : ∀ e u, u.depth = w.depth + 1 → w.depth < p.limit →
        Registry.base.evaluate env e p u = Registry.base.evaluateWithin room env e p u := by
      intro e u hdepth _
      have hroom' : p.limit - u.depth = room := by omega
      rw [Registry.evaluate, hroom']
    rw [guarded_evaluate_congr p env e w hinside, Registry.guarded, if_neg hlimit,
      Registry.evaluate, hroom]
    rfl

/-- So many turns of the recursion as there is room, and one more, give what the evaluator gives,
whatever evaluator takes over behind them. -/
theorem iterate_guarded (beyond : Evaluator) (turns : Nat) (e : Value) (w : World)
    (hturns : p.limit - w.depth < turns) :
    Registry.base.evaluate env e p w = (Registry.base.guarded^[turns] beyond) env e p w := by
  induction turns generalizing e w with
  | zero => omega
  | succ turns ih =>
    -- The outermost turn is taken off: inside it there is one turn less, and one level less to go.
    rw [Function.iterate_succ_apply', ← guarded_evaluate]
    apply guarded_evaluate_congr
    intro e u hdepth hlimit
    exact ih e u (by omega)

/-- Every call ends. The evaluator obeys its recursion, and for a call a number of turns of the
recursion can be given after which nothing is left to evaluate: the outcome and the world do not
depend on what would take over behind them. The count of evaluations never passes the limit, and
however the call ends, the count is what it was before. -/
theorem call_ends (c : Call) (w : World) :
    Registry.base.guarded Registry.base.evaluate = Registry.base.evaluate ∧
      (∃ turns ≤ p.limit + 1, ∀ beyond : Evaluator,
        c.run (Registry.base.guarded^[turns] beyond) env p w =
          c.run Registry.base.evaluate env p w) ∧
      (c.run Registry.base.evaluate env p w).2.deepest ≤ max w.deepest p.limit ∧
      (c.run Registry.base.evaluate env p w).2.depth = w.depth := by
  refine ⟨guarded_evaluate, ⟨p.limit - w.depth + 1, by omega, ?_⟩, ?_⟩
  · intro beyond
    have hagree : ∀ e u, u.depth = w.depth → Registry.base.evaluate env e p u =
        (Registry.base.guarded^[p.limit - w.depth + 1] beyond) env e p u := by
      intro e u hdepth
      exact iterate_guarded p env beyond _ e u (by omega)
    have hself := simulates_evaluate p env (Nat.le_max_right w.deepest p.limit) hagree
    have hcall := (counted_lawful _ _).diagonal.call hself (fun hworlds => ⟨rfl, hworlds⟩) c
    exact ((Invariant.simulates_diagonal_iff.mp hcall).2 w ⟨rfl, Nat.le_max_left ..⟩).symm
  · have hcall := (counted_lawful w.depth _).call
      (keeps_evaluate p env (Nat.le_max_right w.deepest p.limit)) id c
    obtain ⟨hdepth, hdeepest⟩ := (Invariant.good_of_ends (hcall ⟨rfl, Nat.le_max_left ..⟩)).1
    exact ⟨hdeepest, hdepth⟩

/-! ### Higher limits -/

/-- Evaluations under two limits, in one world. Where the first ends beyond its limit, nothing is
asked of the second. -/
def raised (limit limit' : Nat) :
    Simulation { p with limit } { p with limit := limit' } env env where
  Worlds w w' := w = w'
  Result _ := True
  Stops s w s' w' := s = s' ∧ w = w'
  Waived s := ∃ l e, s = .failed (.tooDeep l e)

/-- Within one turn of the recursion the limit plays no role. -/
theorem raised_lawful (limit limit' : Nat) : (raised p env limit limit').Lawful where
  result_of_isInert _ := trivial
  lookup?_eq := by
    rintro w w' rfl name
    rfl
  result_of_lookup? _ _ := trivial
  hasLocal_eq := by
    rintro w w' rfl name
    rfl
  noted := by
    rintro w w' level message rfl _
    rfl
  misused := by
    rintro w w' e rfl
    exact ⟨rfl, rfl⟩
  defined := by
    rintro w w' name v rfl _
    rfl
  assigned := by
    rintro w w' name v rfl _
    rfl

/-- Evaluations are counted alike under both limits. -/
theorem raised_nests (limit limit' : Nat) : (raised p env limit limit').Nests where
  entered := by
    rintro w w' rfl
    rfl
  exited := by
    rintro w w' rfl
    rfl
  stopped := by
    rintro s s' w w' ⟨rfl, rfl⟩
    exact ⟨rfl, rfl⟩

/-- A higher limit makes no difference to an evaluation that does not end beyond the lower one. -/
theorem evaluate_eq_of_limit_le {limit limit' : Nat} (hle : limit ≤ limit') (e : Value) (w : World)
    (hended : ∀ l x, (Registry.base.evaluate env e { p with limit } w).1 ≠
      .failed ⟨.tooDeep l x, .nil⟩) :
    Registry.base.evaluate env e { p with limit := limit' } w =
      Registry.base.evaluate env e { p with limit } w := by
  obtain ⟨extra, hextra⟩ : ∃ extra, limit' - w.depth = limit - w.depth + extra :=
    ⟨limit' - w.depth - (limit - w.depth), by omega⟩
  have hbottom : ∀ e, (raised p env limit limit').Simulates (fun _ => True)
      (Registry.base.evaluateWithin 0 env e) (Registry.base.evaluateWithin extra env e) := by
    intro e w w' _
    have hwaived : (raised p env limit limit').Waived (.failed (.tooDeep limit e)) :=
      ⟨limit, e, rfl⟩
    exact .waived hwaived
  have hwithin := (raised_lawful p env limit limit').evaluateWithin rfl
    (raised_nests p env limit limit') hbottom (limit - w.depth) e
  have hrelated := @hwithin w w rfl
  rw [← hextra] at hrelated
  change (raised p env limit limit').Related _
    (Registry.base.evaluate env e { p with limit } w)
    (Registry.base.evaluate env e { p with limit := limit' } w) at hrelated
  generalize Registry.base.evaluate env e { p with limit } w = low at hended hrelated ⊢
  generalize Registry.base.evaluate env e { p with limit := limit' } w = high at hrelated ⊢
  cases hrelated with
  | value _ hworlds =>
    obtain rfl := hworlds
    rfl
  | stop hstops =>
    obtain ⟨rfl, rfl⟩ := hstops
    rfl
  | waived hwaived =>
    obtain ⟨l, x, rfl⟩ := hwaived
    exact absurd rfl (hended l x)

/-- Code that is made on the way and defines a name: three nested evaluations are enough. -/
theorem evaluate_eq_of_limit_le_code :
    (Registry.base.evaluate 0 (.list [.sym (text "eval"), .str (text "(def x #t)")])
        { Policies.usual .warn with limit := 3 } (Session.new (.usual .warn)).world).1 =
      .value (.bool true) ∧
    Registry.base.evaluate 0 (.list [.sym (text "eval"), .str (text "(def x #t)")])
        { Policies.usual .warn with limit := 10 } (Session.new (.usual .warn)).world =
      Registry.base.evaluate 0 (.list [.sym (text "eval"), .str (text "(def x #t)")])
        { Policies.usual .warn with limit := 3 } (Session.new (.usual .warn)).world := by
  have hvalue : (Registry.base.evaluate 0 (.list [.sym (text "eval"), .str (text "(def x #t)")])
      { Policies.usual .warn with limit := 3 } (Session.new (.usual .warn)).world).1 =
        .value (.bool true) := rfl
  refine ⟨hvalue, evaluate_eq_of_limit_le _ _ (by decide) _ _ ?_⟩
  intro l x h
  rw [hvalue] at h
  cases h

end Depth

end Lisplet
