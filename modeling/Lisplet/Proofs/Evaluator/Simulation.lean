import Lisplet.Proofs.Environment
import Lisplet.Session

/-!
# Evaluations side by side

Two evaluations that differ in their policies or worlds can be compared step by step. A simulation
says which worlds go together and how the ends of the two have to match. It suffices to check the
few things that the evaluator does to a world: reading a binding, writing one, logging, and counting
the evaluations in progress. The special forms and the base operations only put these together, and
so does the evaluator itself.
-/

namespace Lisplet

/-! ### What is done to a world -/

/-- How an evaluation ends without a result. -/
inductive Stop where
  /-- With a failure that is handed back beside absence. -/
  | failed (failure : Failure)
  /-- With a failure that breaks off everything in progress. -/
  | aborted (failure : Failure)

/-- The outcome of an evaluation that ends without a result. -/
def Stop.outcome {α : Type} : Stop → Outcome α
  | .failed failure => .failed ⟨failure, .nil⟩
  | .aborted failure => .aborted failure

/-- How a policy ends an evaluation. -/
def FatalPolicy.stop : FatalPolicy → Failure → Stop
  | .fail, failure => .failed failure
  | .abort, failure => .aborted failure

namespace World

/-- The world after a message to a log of a given level. -/
def noted (w : World) (taken level : Log.Level) (message : Text) : World :=
  if taken.takes level then { w with log := w.log ++ [⟨level, message⟩] } else w

/-- The world with one more evaluation in progress. -/
def entered (w : World) : World :=
  { w with depth := w.depth + 1, deepest := max w.deepest (w.depth + 1) }

/-- The world with one evaluation less in progress. -/
def exited (w : World) : World := { w with depth := w.depth - 1 }

/-- A message does not touch the environments. -/
@[simp] theorem heap_noted (w : World) (taken level : Log.Level) (message : Text) :
    (w.noted taken level message).heap = w.heap := by
  rw [noted]
  split <;> rfl

/-- A message is put at the end of the log if its level is taken. -/
@[simp] theorem log_noted (w : World) (taken level : Log.Level) (message : Text) :
    (w.noted taken level message).log =
      w.log ++ if taken.takes level then [⟨level, message⟩] else [] := by
  rw [noted]
  split <;> simp

/-- A message does not change the count of evaluations. -/
@[simp] theorem depth_noted (w : World) (taken level : Log.Level) (message : Text) :
    (w.noted taken level message).depth = w.depth := by
  rw [noted]
  split <;> rfl

/-- A message does not change the highest count. -/
@[simp] theorem deepest_noted (w : World) (taken level : Log.Level) (message : Text) :
    (w.noted taken level message).deepest = w.deepest := by
  rw [noted]
  split <;> rfl

end World

namespace Evaluation

variable {α β : Type}

/-- To note a message is to log it at the level of the policies. -/
theorem note_apply (level : Log.Level) (message : Text) (p : Policies) (w : World) :
    note level message p w = (.value (), w.noted p.level level message) := by
  rw [note, World.noted]
  split <;> rfl

/-- A misuse is logged as a warning, and the policy says how it ends. -/
theorem misuse_apply (e : FormError) (p : Policies) (w : World) :
    (misuse e : Evaluation α) p w =
      ((p.fatal.stop (.misuse e)).outcome, w.noted p.level .warn e.message) := by
  simp only [misuse, bind, andThen, note_apply]
  cases p.fatal <;> rfl

/-- What follows an evaluation goes on with its value. -/
theorem bind_of_value {x : Evaluation α} {f : α → Evaluation β} {p : Policies} {w w' : World}
    {a : α} (h : x p w = (.value a, w')) : (x >>= f) p w = f a p w' := by
  simp only [bind, andThen, h]

/-- A failure is handed on, and nothing stands beside it any more. -/
theorem bind_of_failed {x : Evaluation α} {f : α → Evaluation β} {p : Policies} {w w' : World}
    {result : FailedResult} (h : x p w = (.failed result, w')) :
    (x >>= f) p w = (.failed ⟨result.failure, .nil⟩, w') := by
  simp only [bind, andThen, h]

/-- Nothing is done behind an evaluation that is stopped. -/
theorem bind_of_stop {x : Evaluation α} {f : α → Evaluation β} {p : Policies} {w w' : World}
    {s : Stop} (h : x p w = (s.outcome, w')) : (x >>= f) p w = (s.outcome, w') := by
  simp only [bind, andThen, h]
  cases s <;> rfl

/-- Evaluations one after the other may be grouped in either way. -/
theorem bind_assoc {γ : Type} (x : Evaluation α) (f : α → Evaluation β)
    (g : β → Evaluation γ) : x >>= f >>= g = x >>= fun a => f a >>= g := by
  funext p w
  simp only [bind, andThen]
  rcases x p w with ⟨_ | _ | _, w'⟩ <;> rfl

/-- What follows may depend on the policies. -/
theorem policies_bind (f : Policies → Evaluation α) (p : Policies) (w : World) :
    (policies >>= f) p w = f p p w :=
  rfl

/-- What follows may depend on the environments. -/
theorem heap_bind (f : Heap → Evaluation α) (p : Policies) (w : World) :
    (heap >>= f) p w = f w.heap p w :=
  rfl

/-- A nested evaluation is counted while it is in progress. -/
theorem nested_apply (x : Evaluation α) (p : Policies) (w : World) :
    nested x p w = ((x p w.entered).1, (x p w.entered).2.exited) :=
  rfl

end Evaluation

/-- Whether a value is no program: it is neither a symbol nor a list with items. -/
def Value.isInert : Value → Bool
  | .sym _ => false
  | .list (_ :: _) => false
  | _ => true

/-- Only a truth value equals one. -/
theorem Value.eq_of_equals_bool {v : Value} {b : Bool} (h : v.equals (.bool b) = true) :
    v = .bool b := by
  cases v <;> simp_all [equals, isNil]

/-- Whether an outcome gives a truth value. -/
def Outcome.isBool (b : Bool) : Outcome Value → Bool
  | .value v => v.equals (.bool b)
  | _ => false

/-- An outcome that gives a truth value gives no other one. -/
theorem Outcome.eq_of_isBool {o : Outcome Value} {b : Bool} (h : o.isBool b = true) :
    o = .value (.bool b) := by
  cases o with
  | value v => rw [Value.eq_of_equals_bool h]
  | failed _ => cases h
  | aborted _ => cases h

/-- The base operations and their names. -/
theorem Registry.base_cases {name : Text} {operation : Operation}
    (h : Registry.base.get? name = some operation) :
    (name = text "eval" ∧ operation = Operation.eval) ∨
      (name = text "=" ∧ operation = Operation.equal) ∨
      (name = text "+" ∧ operation = Operation.add) ∨
      (name = text "*" ∧ operation = Operation.multiply) ∨
      (name = text "-" ∧ operation = Operation.subtract) ∨
      (name = text "/" ∧ operation = Operation.divide) := by
  have hmem := Dictionary.mem_of_get?_ofList h
  simpa only [List.mem_cons, Prod.mk.injEq, List.not_mem_nil, or_false] using hmem

/-- With room for it, an expression takes one step of the evaluator, counted while it is in
progress. -/
theorem Registry.evaluateWithin_succ_apply (r : Registry) (room : Nat) (env : ScopeId) (e : Value)
    (p : Policies) (w : World) :
    r.evaluateWithin (room + 1) env e p w =
      ((r.step (r.evaluateWithin room) env e p w.entered).1,
        (r.step (r.evaluateWithin room) env e p w.entered).2.exited) :=
  rfl

/-! ### Simulations -/

/-- What relates an evaluation under some policies in an environment to another one. -/
structure Simulation (left right : Policies) (here there : ScopeId) where
  /-- The worlds that go together. -/
  Worlds : World → World → Prop
  /-- The results that both can give. -/
  Result : Value → Prop
  /-- The ends without a result that go together. -/
  Stops : Stop → World → Stop → World → Prop
  /-- The ends of the first evaluation after which nothing is asked of the second. -/
  Waived : Stop → Prop

namespace Simulation

variable {p q : Policies} {env env' : ScopeId} (S : Simulation p q env env') {α β : Type}

/-- The ends of two evaluations match: they give one result, or stop in ways that go together. -/
inductive Related (Q : α → Prop) : Outcome α × World → Outcome α × World → Prop
  | value {a : α} {w w' : World} (result : Q a) (worlds : S.Worlds w w') :
    Related Q (.value a, w) (.value a, w')
  | stop {s s' : Stop} {w w' : World} (stops : S.Stops s w s' w') :
    Related Q (s.outcome, w) (s'.outcome, w')
  | waived {s : Stop} {w : World} {y : Outcome α × World} (waived : S.Waived s) :
    Related Q (s.outcome, w) y

/-- Two evaluations that begin in worlds that go together have ends that match. -/
def Simulates (Q : α → Prop) (x y : Evaluation α) : Prop :=
  ∀ ⦃w w' : World⦄, S.Worlds w w' → S.Related Q (x p w) (y q w')

/-- The worlds that go together still do so after everything that the evaluator does to them. -/
structure Lawful : Prop where
  /-- What evaluates to itself can be a result. -/
  result_of_isInert : ∀ {v : Value}, v.isInert = true → S.Result v
  /-- Names have the same values. -/
  lookup?_eq : ∀ {w w' : World}, S.Worlds w w' →
    ∀ name, w.heap.lookup? env name = w'.heap.lookup? env' name
  /-- The value of a name can be a result. -/
  result_of_lookup? : ∀ {w w' : World} {name : Text} {v : Value}, S.Worlds w w' →
    w.heap.lookup? env name = some v → S.Result v.clone
  /-- The environments themselves hold the same names. -/
  hasLocal_eq : ∀ {w w' : World}, S.Worlds w w' →
    ∀ name, w.heap.hasLocal env name = w'.heap.hasLocal env' name
  /-- A message other than a warning is logged. -/
  noted : ∀ {w w' : World} {level : Log.Level} (message : Text), S.Worlds w w' → level ≠ .warn →
    S.Worlds (w.noted p.level level message) (w'.noted q.level level message)
  /-- A form is misused. -/
  misused : ∀ {w w' : World} (e : FormError), S.Worlds w w' →
    S.Stops (p.fatal.stop (.misuse e)) (w.noted p.level .warn e.message)
      (q.fatal.stop (.misuse e)) (w'.noted q.level .warn e.message)
  /-- A name is bound. -/
  defined : ∀ {w w' : World} (name : Text) {v : Value}, S.Worlds w w' → S.Result v →
    S.Worlds { w with heap := w.heap.set env name v } { w' with heap := w'.heap.set env' name v }
  /-- A binding is replaced. -/
  assigned : ∀ {w w' : World} (name : Text) {v : Value}, S.Worlds w w' → S.Result v →
    S.Worlds { w with heap := (w.heap.assign? env name v).getD w.heap }
      { w' with heap := (w'.heap.assign? env' name v).getD w'.heap }

/-- The worlds that go together still do so when both evaluations are counted, or both are done. -/
structure Nests : Prop where
  /-- Both evaluations begin. -/
  entered : ∀ {w w' : World}, S.Worlds w w' → S.Worlds w.entered w'.entered
  /-- Both evaluations end. -/
  exited : ∀ {w w' : World}, S.Worlds w w' → S.Worlds w.exited w'.exited
  /-- Both evaluations end without a result. -/
  stopped : ∀ {s s' : Stop} {w w' : World}, S.Stops s w s' w' → S.Stops s w.exited s' w'.exited

variable {S}

/-! ### Putting evaluations together -/

/-- The same result on both sides. -/
theorem Simulates.pure {Q : α → Prop} {a : α} (h : Q a) :
    S.Simulates Q (Pure.pure a) (Pure.pure a) :=
  fun _ _ hworlds => .value h hworlds

/-- Evaluations that match, and then others that match for each of their results. -/
theorem Simulates.bind {Q : α → Prop} {Q' : β → Prop} {x y : Evaluation α}
    {f g : α → Evaluation β} (h : S.Simulates Q x y)
    (hnext : ∀ a, Q a → S.Simulates Q' (f a) (g a)) : S.Simulates Q' (x >>= f) (y >>= g) := by
  intro w w' hworlds
  have hrelated := h hworlds
  generalize hx : x p w = first at hrelated
  generalize hy : y q w' = second at hrelated
  cases hrelated with
  | value hresult hworlds =>
    rw [Evaluation.bind_of_value hx, Evaluation.bind_of_value hy]
    exact hnext _ hresult hworlds
  | stop hstops =>
    rw [Evaluation.bind_of_stop hx, Evaluation.bind_of_stop hy]
    exact .stop hstops
  | waived hwaived =>
    rw [Evaluation.bind_of_stop hx]
    exact .waived hwaived

/-- Less may be said about the results. -/
theorem Simulates.mono {Q Q' : α → Prop} {x y : Evaluation α} (h : S.Simulates Q x y)
    (himp : ∀ a, Q a → Q' a) : S.Simulates Q' x y := by
  intro w w' hworlds
  have hrelated := h hworlds
  generalize x p w = first at hrelated ⊢
  generalize y q w' = second at hrelated ⊢
  cases hrelated with
  | value hresult hworlds => exact .value (himp _ hresult) hworlds
  | stop hstops => exact .stop hstops
  | waived hwaived => exact .waived hwaived

/-- Where all ends without a result go together as the results do, the outcomes are the same. -/
theorem Related.same {Q : α → Prop} {out out' : Outcome α × World}
    (h : S.Related Q out out')
    (hstops : ∀ {s s' w w'}, S.Stops s w s' w' → s = s' ∧ S.Worlds w w')
    (hwaived : ∀ s, ¬ S.Waived s) : out'.1 = out.1 ∧ S.Worlds out.2 out'.2 := by
  cases h with
  | value _ hworlds => exact ⟨rfl, hworlds⟩
  | stop hends =>
    obtain ⟨rfl, hworlds⟩ := hstops hends
    exact ⟨rfl, hworlds⟩
  | waived hw => exact absurd hw (hwaived _)

/-- Evaluations that match still do so one level deeper. -/
theorem Simulates.nested (nests : S.Nests) {Q : α → Prop} {x y : Evaluation α}
    (h : S.Simulates Q x y) : S.Simulates Q (Evaluation.nested x) (Evaluation.nested y) := by
  intro w w' hworlds
  rw [Evaluation.nested_apply, Evaluation.nested_apply]
  have hrelated := h (nests.entered hworlds)
  generalize x p w.entered = first at hrelated
  generalize y q w'.entered = second at hrelated
  cases hrelated with
  | value hresult hworlds => exact .value hresult (nests.exited hworlds)
  | stop hstops => exact .stop (nests.stopped hstops)
  | waived hwaived => exact .waived hwaived

/-- Both log a message other than a warning. -/
theorem Lawful.note (law : S.Lawful) {level : Log.Level} (hlevel : level ≠ .warn)
    (message : Text) :
    S.Simulates (fun _ => True) (Evaluation.note level message)
      (Evaluation.note level message) := by
  intro w w' hworlds
  rw [Evaluation.note_apply, Evaluation.note_apply]
  exact .value trivial (law.noted message hworlds hlevel)

/-- Both end with the same misuse. -/
theorem Lawful.misuse (law : S.Lawful) {Q : α → Prop} (e : FormError) :
    S.Simulates Q (Evaluation.misuse e) (Evaluation.misuse e) := by
  intro w w' hworlds
  rw [Evaluation.misuse_apply, Evaluation.misuse_apply]
  exact .stop (law.misused e hworlds)

/-- A symbol has one value on both sides. -/
theorem Lawful.valueOfSymbol (law : S.Lawful) (name : Text) :
    S.Simulates S.Result (Registry.valueOfSymbol env name) (Registry.valueOfSymbol env' name) := by
  intro w w' hworlds
  rw [Registry.valueOfSymbol, Registry.valueOfSymbol, Evaluation.heap_bind, Evaluation.heap_bind,
    ← law.lookup?_eq hworlds name]
  cases hlookup : w.heap.lookup? env name with
  | none =>
    have hnil : S.Result .nil := law.result_of_isInert rfl
    exact (Simulates.bind (law.note (by decide) _) fun _ _ => .pure hnil) hworlds
  | some v => exact .value (law.result_of_lookup? hworlds hlookup) hworlds

/-! ### Evaluators side by side -/

section Evaluators

variable {self self' : Evaluator} {args : List Value}

/-- A loop over expressions matches if the evaluators do so on each of them. -/
theorem inOrder (hself : ∀ a ∈ args, S.Simulates S.Result (self env a) (self' env' a))
    {last : Value} (hlast : S.Result last) :
    S.Simulates S.Result (self.inOrder env last args) (self'.inOrder env' last args) := by
  induction args generalizing last with
  | nil => exact .pure hlast
  | cons a rest ih =>
    rw [List.forall_mem_cons] at hself
    exact .bind hself.1 fun v hv => ih hself.2 hv

/-- An argument as a number. -/
theorem number {a : Value} (hself : S.Simulates S.Result (self env a) (self' env' a)) :
    S.Simulates (fun _ => True) (self.number env a) (self'.number env' a) :=
  .bind hself fun _ _ => .pure trivial

/-- Arguments that are combined to a number. -/
theorem combine (hself : ∀ a ∈ args, S.Simulates S.Result (self env a) (self' env' a))
    (f : Float → Float → Float) (total : Float) :
    S.Simulates (fun _ => True) (self.combine env f total args)
      (self'.combine env' f total args) := by
  induction args generalizing total with
  | nil => exact .pure trivial
  | cons a rest ih =>
    rw [List.forall_mem_cons] at hself
    exact .bind (number hself.1) fun n _ => ih hself.2 (f total n)

/-- Code matches if the expression that is read from it does so. -/
theorem Lawful.evalText (law : S.Lawful) {code : Text}
    (hself : ∀ e, parse code = .ok e → S.Simulates S.Result (self env e) (self' env' e)) :
    S.Simulates S.Result (self.evalText env code) (self'.evalText env' code) := by
  rw [Evaluator.evalText, Evaluator.evalText]
  cases hparse : parse code with
  | error e => exact .bind (law.note (by decide) _) fun _ _ => .pure (law.result_of_isInert rfl)
  | ok e => exact hself e hparse

/-- A script matches if all expressions do so. Where it cannot be read, both end with the error. -/
theorem Lawful.script (law : S.Lawful)
    (hself : ∀ e, S.Simulates S.Result (self env e) (self' env' e)) {code : Text}
    (hunread : ∀ {w w' : World} {e : ReadError}, S.Worlds w w' →
      S.Stops (.failed (.within (text "parse failed") (.unreadable e))) w
        (.failed (.within (text "parse failed") (.unreadable e))) w') :
    S.Simulates S.Result (self.script env code) (self'.script env' code) := by
  rw [Evaluator.script, Evaluator.script]
  cases parseAll code with
  | error e => exact fun _ _ hworlds => .stop (hunread hworlds)
  | ok forms => exact inOrder (fun a _ => hself a) (law.result_of_isInert rfl)

/-! ### Base operations -/

/-- The operation that evaluates twice. -/
theorem Lawful.eval (law : S.Lawful)
    (hself : ∀ e, S.Simulates S.Result (self env e) (self' env' e)) :
    S.Simulates S.Result (Operation.eval self env args) (Operation.eval self' env' args) := by
  cases args with
  | nil => exact .pure (law.result_of_isInert rfl)
  | cons e rest =>
    refine .bind (hself e) fun v _ => ?_
    cases v with
    | str code => exact law.evalText fun e _ => hself e
    | _ => exact hself _

/-- Under one policy for the first argument, its number matches. -/
theorem seed (hseed : p.seed = q.seed) {e : Value}
    (hself : S.Simulates S.Result (self env e) (self' env' e)) :
    S.Simulates (fun _ => True) (Operation.seed self env e) (Operation.seed self' env' e) := by
  intro w w' hworlds
  rw [Operation.seed, Operation.seed, Evaluation.policies_bind, Evaluation.policies_bind, ← hseed]
  cases p.seed with
  | evaluated => exact number hself hworlds
  | raw => exact .value trivial hworlds

/-- How the first argument is begun with is left open. -/
theorem Lawful.fold_of_seed (law : S.Lawful)
    (hargs : ∀ a ∈ args, S.Simulates S.Result (self env a) (self' env' a))
    (hfirst : ∀ e ∈ args.head?, S.Simulates (fun _ => True) (Operation.seed self env e)
      (Operation.seed self' env' e)) (f : Float → Float → Float) :
    S.Simulates S.Result (Operation.fold f self env args) (Operation.fold f self' env' args) := by
  cases args with
  | nil => exact .pure (law.result_of_isInert rfl)
  | cons e rest =>
    rw [List.forall_mem_cons] at hargs
    refine .bind (hfirst e rfl) fun first _ => ?_
    exact .bind (combine hargs.2 f first) fun total _ => .pure (law.result_of_isInert rfl)

/-- Subtraction and division, if both begin with the first argument in the same way. -/
theorem Lawful.fold (law : S.Lawful) (hseed : p.seed = q.seed)
    (hself : ∀ a ∈ args, S.Simulates S.Result (self env a) (self' env' a))
    (f : Float → Float → Float) :
    S.Simulates S.Result (Operation.fold f self env args) (Operation.fold f self' env' args) :=
  law.fold_of_seed hself (fun e he => seed hseed (hself e (List.mem_of_mem_head? he))) f

/-- Arguments that are compared with one head. -/
theorem allEqual (hself : ∀ a ∈ args, S.Simulates S.Result (self env a) (self' env' a))
    (head : Value) :
    S.Simulates (fun _ => True) (Operation.allEqual self env head args)
      (Operation.allEqual self' env' head args) := by
  induction args with
  | nil => exact .pure trivial
  | cons a rest ih =>
    rw [List.forall_mem_cons] at hself
    refine .bind hself.1 fun v _ => ?_
    by_cases hequal : head.equals v = true
    · rw [if_pos hequal, if_pos hequal]
      exact ih hself.2
    · rw [if_neg hequal, if_neg hequal]
      exact .pure trivial

/-- The comparison, if both begin with the first argument in the same way. -/
theorem Lawful.equal (law : S.Lawful) (hseed : p.seed = q.seed)
    (hself : ∀ a ∈ args, S.Simulates S.Result (self env a) (self' env' a)) :
    S.Simulates S.Result (Operation.equal self env args) (Operation.equal self' env' args) := by
  cases args with
  | nil => exact .pure (law.result_of_isInert rfl)
  | cons e rest =>
    rw [List.forall_mem_cons] at hself
    have hfirst : S.Simulates (fun _ => True) (Operation.seedValue self env e)
        (Operation.seedValue self' env' e) := by
      intro w w' hworlds
      rw [Operation.seedValue, Operation.seedValue, Evaluation.policies_bind,
        Evaluation.policies_bind, ← hseed]
      cases p.seed with
      | evaluated => exact (hself.1.mono fun _ _ => trivial) hworlds
      | raw => exact .value trivial hworlds
    refine .bind hfirst fun head _ => ?_
    exact .bind (allEqual hself.2 head) fun _ _ => .pure (law.result_of_isInert rfl)

/-! ### Special forms -/

/-- The conditional takes the same branch on both sides. -/
theorem Lawful.conditional (law : S.Lawful)
    (hself : ∀ a ∈ args, S.Simulates S.Result (self env a) (self' env' a)) :
    S.Simulates S.Result (SpecialForm.runConditional self env args)
      (SpecialForm.runConditional self' env' args) := by
  match args with
  | [] => exact law.misuse _
  | [_] => exact law.misuse _
  | condition :: first :: rest =>
    rw [List.forall_mem_cons, List.forall_mem_cons] at hself
    obtain ⟨hcondition, hfirst, hrest⟩ := hself
    refine .bind hcondition fun c _ => ?_
    by_cases hc : c.isTruthy = true
    · rw [if_pos hc, if_pos hc]
      exact hfirst
    · rw [if_neg hc, if_neg hc]
      cases rest with
      | nil => exact .pure (law.result_of_isInert rfl)
      | cons second _ => exact hrest second (List.mem_cons_self ..)

/-- The name that a form binds is read off its arguments. -/
theorem Lawful.symbolOf (law : S.Lawful) (form : SpecialForm) :
    S.Simulates (fun _ => True) (SpecialForm.symbolOf form args)
      (SpecialForm.symbolOf form args) := by
  cases args with
  | nil => exact law.misuse _
  | cons v rest =>
    cases v with
    | sym name => exact .pure trivial
    | _ => exact law.misuse _

/-- The value that a form binds is that of its second argument. -/
theorem Lawful.valueOf (law : S.Lawful)
    (hself : ∀ a ∈ args, S.Simulates S.Result (self env a) (self' env' a)) :
    S.Simulates S.Result (SpecialForm.valueOf self env args)
      (SpecialForm.valueOf self' env' args) := by
  match args with
  | [] => exact .pure (law.result_of_isInert rfl)
  | [_] => exact .pure (law.result_of_isInert rfl)
  | _ :: e :: _ => exact hself e (by simp)

/-- The definition writes the same binding on both sides. -/
theorem Lawful.define (law : S.Lawful)
    (hself : ∀ a ∈ args, S.Simulates S.Result (self env a) (self' env' a)) :
    S.Simulates S.Result (SpecialForm.runDefine self env args)
      (SpecialForm.runDefine self' env' args) := by
  refine .bind (law.symbolOf .define) fun name _ => ?_
  refine .bind (law.valueOf hself) fun v hv => ?_
  intro w w' hworlds
  exact .value hv (law.defined name hworlds hv)

/-- The assignment replaces a binding on both sides or is misused on both. -/
theorem Lawful.assign (law : S.Lawful)
    (hself : ∀ a ∈ args, S.Simulates S.Result (self env a) (self' env' a)) :
    S.Simulates S.Result (SpecialForm.runAssign self env args)
      (SpecialForm.runAssign self' env' args) := by
  refine .bind (law.symbolOf .assign) fun name _ => ?_
  intro w w' hworlds
  -- Both find out whether the name is bound before they evaluate its value, and write behind it.
  have hhas : w.heap.has env name = w'.heap.has env' name := by
    rw [Heap.has_eq_isSome_lookup?, Heap.has_eq_isSome_lookup?, law.lookup?_eq hworlds]
  rw [Evaluation.heap_bind, Evaluation.heap_bind, ← hhas]
  by_cases hbound : w.heap.has env name = true
  · rw [if_pos hbound, if_pos hbound]
    refine Simulates.bind (law.valueOf hself) (fun v hv => ?_) hworlds
    intro u u' hworlds
    exact .value hv (law.assigned name hworlds hv)
  · rw [if_neg hbound, if_neg hbound]
    exact law.misuse _ hworlds

/-- The form for functions only looks at the names of the environment itself. -/
theorem Lawful.function (law : S.Lawful) :
    S.Simulates S.Result (SpecialForm.runFunction env args)
      (SpecialForm.runFunction env' args) := by
  refine .bind (law.symbolOf .function) fun name _ => ?_
  intro w w' hworlds
  rw [Evaluation.heap_bind, Evaluation.heap_bind, ← law.hasLocal_eq hworlds name]
  by_cases hbound : w.heap.hasLocal env name = true
  · rw [if_pos hbound]
    exact law.misuse _ hworlds
  · rw [if_neg hbound]
    exact .value (law.result_of_isInert rfl) hworlds

/-! ### The evaluator -/

/-- All operations but the one that evaluates twice evaluate nothing besides their arguments. How
they begin with the first one is left open. -/
theorem Lawful.apply_of_args (law : S.Lawful) {name : Text} (hname : name ≠ text "eval")
    (hargs : ∀ a ∈ args, S.Simulates S.Result (self env a) (self' env' a))
    (hequal : name = text "=" → S.Simulates S.Result (Operation.equal self env args)
      (Operation.equal self' env' args))
    (hfold : name = text "-" ∨ name = text "/" → ∀ f, S.Simulates S.Result
      (Operation.fold f self env args) (Operation.fold f self' env' args)) :
    S.Simulates S.Result (Registry.base.apply self env name args)
      (Registry.base.apply self' env' name args) := by
  have hnumber : ∀ n, S.Result (.num n) := fun n => law.result_of_isInert rfl
  rw [Registry.apply, Registry.apply]
  cases SpecialForm.ofName? name with
  | some form =>
    cases form with
    | sequence => exact inOrder hargs (law.result_of_isInert rfl)
    | conditional => exact law.conditional hargs
    | define => exact law.define hargs
    | assign => exact law.assign hargs
    | function => exact law.function
  | none =>
    cases hoperation : Registry.base.get? name with
    | none =>
      exact .bind (law.note (by decide) _) fun _ _ => .pure (law.result_of_isInert rfl)
    | some operation =>
      rcases Registry.base_cases hoperation with
        ⟨heval, -⟩ | ⟨hsign, rfl⟩ | ⟨-, rfl⟩ | ⟨-, rfl⟩ | ⟨hsign, rfl⟩ | ⟨hsign, rfl⟩
      · exact absurd heval hname
      · exact hequal hsign
      · exact .bind (combine hargs _ _) fun total _ => .pure (hnumber total)
      · exact .bind (combine hargs _ _) fun total _ => .pure (hnumber total)
      · exact hfold (.inl hsign) _
      · exact hfold (.inr hsign) _

/-- Every call by name matches, if all expressions do so. -/
theorem Lawful.apply (law : S.Lawful) (hseed : p.seed = q.seed)
    (hself : ∀ e, S.Simulates S.Result (self env e) (self' env' e)) (name : Text) :
    S.Simulates S.Result (Registry.base.apply self env name args)
      (Registry.base.apply self' env' name args) := by
  have hargs : ∀ a ∈ args, S.Simulates S.Result (self env a) (self' env' a) := fun a _ => hself a
  by_cases hname : name = text "eval"
  · rw [hname]
    exact law.eval hself
  · exact law.apply_of_args hname hargs (fun _ => law.equal hseed hargs)
      fun _ => law.fold hseed hargs

/-- A step matches if it does so where it applies something. -/
theorem Lawful.step_of_apply (law : S.Lawful) {e : Value}
    (happly : ∀ head args, e = .list (head :: args) →
      S.Simulates S.Result (Registry.base.apply self env head.headText args)
        (Registry.base.apply self' env' head.headText args)) :
    S.Simulates S.Result (Registry.base.step self env e) (Registry.base.step self' env' e) := by
  cases e with
  | sym name => exact law.valueOfSymbol name
  | list items =>
    cases items with
    | nil => exact .pure (law.result_of_isInert rfl)
    | cons head args => exact happly head args rfl
  | _ => exact .pure (law.result_of_isInert rfl)

/-- Two evaluators that match on all expressions still do so after one more step. -/
theorem Lawful.step (law : S.Lawful) (hseed : p.seed = q.seed)
    (hself : ∀ e, S.Simulates S.Result (self env e) (self' env' e)) (e : Value) :
    S.Simulates S.Result (Registry.base.step self env e) (Registry.base.step self' env' e) :=
  law.step_of_apply fun head _ _ => law.apply hseed hself head.headText

/-- Evaluations with room for equally many nested ones match, if those without room do. The second
evaluation may have some more room. -/
theorem Lawful.evaluateWithin (law : S.Lawful) (hseed : p.seed = q.seed) (nests : S.Nests)
    {extra : Nat}
    (hbottom : ∀ e, S.Simulates S.Result (Registry.base.evaluateWithin 0 env e)
      (Registry.base.evaluateWithin extra env' e))
    (room : Nat) (e : Value) :
    S.Simulates S.Result (Registry.base.evaluateWithin room env e)
      (Registry.base.evaluateWithin (room + extra) env' e) := by
  induction room generalizing e with
  | zero =>
    rw [Nat.zero_add]
    exact hbottom e
  | succ room ih =>
    -- Both take one place for this evaluation, so the second keeps what it has in addition.
    rw [Nat.succ_add]
    exact (law.step hseed ih e).nested nests

/-- The evaluators themselves match, if they have the same room and stop in the same way where there
is none. -/
theorem Lawful.evaluate (law : S.Lawful) (hseed : p.seed = q.seed) (nests : S.Nests)
    (hroom : ∀ {w w' : World}, S.Worlds w w' → q.limit - w'.depth = p.limit - w.depth)
    (hstops : ∀ {w w' : World} (e : Value), S.Worlds w w' →
      S.Stops (.failed (.tooDeep p.limit e)) w (.failed (.tooDeep q.limit e)) w')
    (e : Value) :
    S.Simulates S.Result (Registry.base.evaluate env e) (Registry.base.evaluate env' e) := by
  intro w w' hworlds
  have hbottom : ∀ e, S.Simulates S.Result (Registry.base.evaluateWithin 0 env e)
      (Registry.base.evaluateWithin 0 env' e) := fun e _ _ hworlds => .stop (hstops e hworlds)
  have hwithin := law.evaluateWithin hseed nests hbottom (p.limit - w.depth) e
  rw [Registry.evaluate, Registry.evaluate, hroom hworlds]
  exact hwithin hworlds

end Evaluators

end Simulation

/-! ### Calls of an evaluator -/

/-- What an evaluator can be asked for. -/
inductive Call where
  /-- The value of an expression. -/
  | expression (e : Value)
  /-- The value of the first expression of a text. -/
  | code (t : Text)
  /-- The value of the last expression of a text, all of which are evaluated. -/
  | script (t : Text)

/-- The evaluation that a call asks for. -/
def Call.run (self : Evaluator) (env : ScopeId) : Call → Evaluation Value
  | .expression e => self env e
  | .code t => self.evalText env t
  | .script t => self.script env t

/-- All that can be asked of an environment matches, if all expressions do so. -/
theorem Simulation.Lawful.call {p q : Policies} {env env' : ScopeId}
    {S : Simulation p q env env'} (law : S.Lawful) {self self' : Evaluator}
    (hself : ∀ e, S.Simulates S.Result (self env e) (self' env' e))
    (hunread : ∀ {w w' : World} {e : ReadError}, S.Worlds w w' →
      S.Stops (.failed (.within (text "parse failed") (.unreadable e))) w
        (.failed (.within (text "parse failed") (.unreadable e))) w')
    (c : Call) : S.Simulates S.Result (c.run self env) (c.run self' env') := by
  cases c with
  | expression e => exact hself e
  | code t => exact law.evalText fun e _ => hself e
  | script t => exact law.script hself hunread

end Lisplet
