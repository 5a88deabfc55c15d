import Lisplet.Proofs.Evaluator.Delivery
import Lisplet.Proofs.Evaluator.Height

/-!
# What operations begin with

Subtraction and division begin with the number of their first argument and combine the numbers of
the others into it, one after the other. Where the first argument is evaluated, it may therefore be
the same operation on some arguments in front: both nest to the left. Comparison begins with the
value of its first argument. Where the first arguments of these operations are literals, it makes no
difference whether they are evaluated or taken as they are written.

In both comparisons one of the evaluations nests more deeply than the other, so they are the same
unless it ends beyond the limit.
-/

namespace Lisplet

/-! ### Evaluations of which one needs more room -/

/-- Evaluations under two policies. Where the first ends beyond the limit, nothing is asked of the
second. -/
def Policies.outlasts (p q : Policies) (env : ScopeId) : Simulation p q env env where
  Worlds := World.SameView
  Result _ := True
  Stops s w s' w' := s = s' ∧ w.SameView w'
  Waived s := ∃ l x, s = .failed (.tooDeep l x)

section Outlasts

variable {p q : Policies} {env : ScopeId} {α : Type}

/-- What an evaluator does to a world depends neither on the limit nor on the first arguments. -/
theorem outlasts_lawful (hlevel : p.level = q.level) (hfatal : p.fatal = q.fatal) :
    (p.outlasts q env).Lawful where
  result_of_isInert _ := trivial
  lookup?_eq hview name := by rw [hview.heap_eq]
  result_of_lookup? _ _ := trivial
  hasLocal_eq hview name := by rw [hview.heap_eq]
  noted message hview _ := by
    rw [hlevel]
    exact hview.noted _ _ message
  misused error hview := by
    rw [hlevel, hfatal]
    exact ⟨rfl, hview.noted _ _ error.message⟩
  defined name v hview _ := ⟨by rw [hview.heap_eq], hview.log_eq⟩
  assigned name v hview _ := ⟨by rw [hview.heap_eq], hview.log_eq⟩

/-- The count of evaluations is not part of the view, and beyond the limit nothing is asked. -/
theorem outlasts_nests : (p.outlasts q env).Nests where
  entered hview := ⟨hview.heap_eq, hview.log_eq⟩
  exited hview := ⟨hview.heap_eq, hview.log_eq⟩
  stopped hstops := ⟨hstops.1, hstops.2.heap_eq, hstops.2.log_eq⟩

/-- An evaluation of a number still matches where it is counted and gives the number as a value. -/
theorem outlasts_number {x y : Evaluation Float}
    (h : (p.outlasts q env).Simulates (fun _ => True) x y) :
    (p.outlasts q env).Simulates (fun _ => True)
      (Evaluation.nested (x >>= fun n => pure (Value.num n)) >>= fun v => pure v.asNum) y := by
  intro w w' hview
  have hentered : w.entered.SameView w' := ⟨hview.heap_eq, hview.log_eq⟩
  have hrelated := h hentered
  generalize hx : x p w.entered = out at hrelated
  generalize y q w' = out' at hrelated
  cases hrelated with
  | @value n u u' _ hafter =>
    have hvalue : Evaluation.nested (x >>= fun n => pure (Value.num n)) p w =
        (.value (.num n), u.exited) := by
      rw [Evaluation.nested_apply, Evaluation.bind_of_value hx]
      rfl
    rw [Evaluation.bind_of_value hvalue]
    exact .value trivial ⟨hafter.heap_eq, hafter.log_eq⟩
  | @stop s s' u u' hstops =>
    have hstop : Evaluation.nested (x >>= fun n => pure (Value.num n)) p w =
        (s.outcome, u.exited) := by
      rw [Evaluation.nested_apply, Evaluation.bind_of_stop hx]
    rw [Evaluation.bind_of_stop hstop]
    exact .stop ⟨hstops.1, hstops.2.heap_eq, hstops.2.log_eq⟩
  | @waived s u _ hwaived =>
    have hstop : Evaluation.nested (x >>= fun n => pure (Value.num n)) p w =
        (s.outcome, u.exited) := by
      rw [Evaluation.nested_apply, Evaluation.bind_of_stop hx]
    rw [Evaluation.bind_of_stop hstop]
    exact .waived hwaived

/-- Nothing is asked where the first evaluation ends beyond the limit. -/
theorem outlasts_tooDeep {Q : α → Prop} (l : Nat) (x : Value) (w : World)
    (out : Outcome α × World) :
    (p.outlasts q env).Related Q (.failed ⟨.tooDeep l x, .nil⟩, w) out := by
  have hwaived : (p.outlasts q env).Waived (.failed (.tooDeep l x)) := ⟨l, x, rfl⟩
  exact .waived hwaived

/-- Without room, an evaluation ends beyond the limit. -/
theorem outlasts_without_room (e : Value) {Q : Value → Prop} (y : Evaluation Value) :
    (p.outlasts q env).Simulates Q (Registry.base.evaluateWithin 0 env e) y :=
  fun w _ _ => outlasts_tooDeep p.limit e w _

/-- An evaluation matches one with more room. -/
theorem outlasts_evaluateWithin (room extra : Nat) (e : Value) :
    (p.outlasts p env).Simulates (fun _ => True) (Registry.base.evaluateWithin room env e)
      (Registry.base.evaluateWithin (room + extra) env e) :=
  (outlasts_lawful rfl rfl).evaluateWithin rfl outlasts_nests
    (fun e => outlasts_without_room e _) room e

/-- Unless the first ends beyond the limit, evaluations that match have the same outcome, and leave
the same environments and log. -/
theorem outlasts_same {Q : α → Prop} {out out' : Outcome α × World}
    (h : (p.outlasts q env).Related Q out out')
    (hended : ∀ l x, out.1 ≠ .failed ⟨.tooDeep l x, .nil⟩) :
    out'.1 = out.1 ∧ out'.2.heap = out.2.heap ∧ out'.2.log = out.2.log := by
  cases h with
  | value _ hview => exact ⟨rfl, hview.heap_eq.symm, hview.log_eq.symm⟩
  | stop hstops =>
    obtain ⟨rfl, hview⟩ := hstops
    exact ⟨rfl, hview.heap_eq.symm, hview.log_eq.symm⟩
  | waived hwaived =>
    obtain ⟨l, x, rfl⟩ := hwaived
    exact absurd rfl (hended l x)

end Outlasts

/-! ### Operations that nest to the left -/

/-- Arguments are combined one after the other, so they can be combined in two parts. -/
theorem Evaluator.combine_append (self : Evaluator) (env : ScopeId) (f : Float → Float → Float)
    (total : Float) (as bs : List Value) :
    self.combine env f total (as ++ bs) =
      self.combine env f total as >>= fun n => self.combine env f n bs := by
  induction as generalizing total with
  | nil => rfl
  | cons a rest ih => simp only [List.cons_append, combine, ih, Evaluation.bind_assoc]

namespace Operation

/-- The number that some arguments are combined to, the first of which is begun with. -/
def total (f : Float → Float → Float) (self : Evaluator) (env : ScopeId) (first : Value)
    (rest : List Value) : Evaluation Float :=
  seed self env first >>= fun n => self.combine env f n rest

variable (f : Float → Float → Float) (self : Evaluator) (env : ScopeId) (first : Value)

/-- A fold of arguments is the number that they are combined to. -/
theorem fold_cons (rest : List Value) :
    fold f self env (first :: rest) = total f self env first rest >>= fun n => pure (.num n) := by
  rw [total, Evaluation.bind_assoc]
  rfl

/-- Further arguments are combined with the number of those in front of them. -/
theorem total_append (as bs : List Value) :
    total f self env first (as ++ bs) =
      total f self env first as >>= fun n => self.combine env f n bs := by
  simp only [total, Evaluator.combine_append, Evaluation.bind_assoc]

end Operation

section LeftNesting

variable {p : Policies} {env : ScopeId}

/-- Subtraction and division combine numbers, each in its own way. -/
theorem exists_evaluateWithin_fold {op : Text} (hop : op ∈ [text "-", text "/"]) :
    ∃ f, ∀ room env args, Registry.base.evaluateWithin (room + 1) env (.list (.sym op :: args)) =
      .nested (Operation.fold f (Registry.base.evaluateWithin room) env args) := by
  simp only [List.mem_cons, List.not_mem_nil, or_false] at hop
  rcases hop with rfl | rfl
  · exact ⟨(· - ·), fun _ _ _ => rfl⟩
  · exact ⟨(· / ·), fun _ _ _ => rfl⟩

/-- An argument that is to be evaluated first ends beyond the limit where there is no room. -/
theorem outlasts_seed_without_room {q : Policies} (hseed : p.seed = .evaluated) (e : Value)
    {Q : Float → Prop} (y : Evaluation Float) :
    (p.outlasts q env).Simulates Q
      (Operation.seed (Registry.base.evaluateWithin 0) env e) y := by
  intro w w' _
  rw [Operation.seed, Evaluation.policies_bind, hseed]
  exact outlasts_tooDeep p.limit e w _

/-- A first argument that is the same operation on some arguments matches the number that these are
combined to. -/
theorem outlasts_seed_fold (hseed : p.seed = .evaluated) {op : Text} {f : Float → Float → Float}
    (hop : ∀ room env args, Registry.base.evaluateWithin (room + 1) env (.list (.sym op :: args)) =
      .nested (Operation.fold f (Registry.base.evaluateWithin room) env args))
    (first : Value) (as : List Value) (room : Nat) :
    (p.outlasts p env).Simulates (fun _ => True)
      (Operation.seed (Registry.base.evaluateWithin room) env (.list (.sym op :: first :: as)))
      (Operation.total f (Registry.base.evaluateWithin room) env first as) := by
  cases room with
  | zero => exact outlasts_seed_without_room hseed _ _
  | succ room =>
    have hnumber : (Registry.base.evaluateWithin (room + 1)).number env
        (.list (.sym op :: first :: as)) =
          (.nested (Operation.total f (Registry.base.evaluateWithin room) env first as >>=
            fun n => pure (Value.num n)) >>= fun v => pure v.asNum) := by
      rw [Evaluator.number, hop, Operation.fold_cons]
    -- The arguments in front have one level less than if they stood on their own.
    have hargs : ∀ e, (p.outlasts p env).Simulates (fun _ => True)
        (Registry.base.evaluateWithin room env e)
        (Registry.base.evaluateWithin (room + 1) env e) := outlasts_evaluateWithin room 1
    have htotal : (p.outlasts p env).Simulates (fun _ => True)
        (Operation.total f (Registry.base.evaluateWithin room) env first as)
        (Operation.total f (Registry.base.evaluateWithin (room + 1)) env first as) :=
      .bind (Simulation.seed rfl (hargs first)) fun n _ =>
        Simulation.combine (fun a _ => hargs a) f n
    intro w w' hview
    rw [Operation.seed, Evaluation.policies_bind, hseed, hnumber]
    exact outlasts_number htotal hview

/-- An operation whose first argument is the same operation matches the operation on the arguments
of both. -/
theorem outlasts_leftNested (hseed : p.seed = .evaluated) {op : Text}
    (hop : op ∈ [text "-", text "/"]) (first : Value) (as bs : List Value) (room : Nat) :
    (p.outlasts p env).Simulates (fun _ => True)
      (Registry.base.evaluateWithin room env
        (.list (.sym op :: .list (.sym op :: first :: as) :: bs)))
      (Registry.base.evaluateWithin room env (.list (.sym op :: first :: (as ++ bs)))) := by
  obtain ⟨f, hfold⟩ := exists_evaluateWithin_fold hop
  cases room with
  | zero => exact outlasts_without_room _ _
  | succ room =>
    have hargs : ∀ e, (p.outlasts p env).Simulates (fun _ => True)
        (Registry.base.evaluateWithin room env e)
        (Registry.base.evaluateWithin room env e) := outlasts_evaluateWithin room 0
    have htotal : (p.outlasts p env).Simulates (fun _ => True)
        (Operation.total f (Registry.base.evaluateWithin room) env
          (.list (.sym op :: first :: as)) bs)
        (Operation.total f (Registry.base.evaluateWithin room) env first (as ++ bs)) := by
      rw [Operation.total_append]
      exact .bind (outlasts_seed_fold hseed hfold first as room) fun n _ =>
        Simulation.combine (fun b _ => hargs b) f n
    rw [hfold, hfold, Operation.fold_cons, Operation.fold_cons]
    exact .nested outlasts_nests (.bind htotal fun n _ => .pure trivial)

end LeftNesting

/-- Subtraction and division nest to the left. An operation on the same operation on some arguments
and on further ones does what it does on all of them: the outcome, the environments and the log are
the same, unless the nested operation ends beyond the limit. -/
theorem evaluate_leftNested (p : Policies) (hseed : p.seed = .evaluated) (env : ScopeId) {op : Text}
    (hop : op ∈ [text "-", text "/"]) {as : List Value} (has : as ≠ []) (bs : List Value)
    (w : World)
    (hended : ∀ l x, (Registry.base.evaluate env
      (.list (.sym op :: .list (.sym op :: as) :: bs)) p w).1 ≠ .failed ⟨.tooDeep l x, .nil⟩) :
    (Registry.base.evaluate env (.list (.sym op :: (as ++ bs))) p w).1 =
      (Registry.base.evaluate env (.list (.sym op :: .list (.sym op :: as) :: bs)) p w).1 ∧
    (Registry.base.evaluate env (.list (.sym op :: (as ++ bs))) p w).2.heap =
      (Registry.base.evaluate env (.list (.sym op :: .list (.sym op :: as) :: bs)) p w).2.heap ∧
    (Registry.base.evaluate env (.list (.sym op :: (as ++ bs))) p w).2.log =
      (Registry.base.evaluate env (.list (.sym op :: .list (.sym op :: as) :: bs)) p w).2.log := by
  obtain ⟨first, as, rfl⟩ := List.exists_cons_of_ne_nil has
  have hview : w.SameView w := ⟨rfl, rfl⟩
  exact outlasts_same (outlasts_leftNested hseed hop first as bs (p.limit - w.depth) hview) hended

/-- A subtraction whose arguments define a name, replace its binding, and use it. -/
theorem evaluate_leftNested_definition :
    (Registry.base.evaluate 0
      (.list [.sym (text "-"), .list [.sym (text "def"), .sym (text "x"), .num 8],
        .list [.sym (text "set"), .sym (text "x"), .num 3], .sym (text "x")])
      { Policies.usual .warn with limit := 4 } (Session.new (.usual .warn)).world).1 =
    (Registry.base.evaluate 0
      (.list [.sym (text "-"), .list [.sym (text "-"),
        .list [.sym (text "def"), .sym (text "x"), .num 8],
        .list [.sym (text "set"), .sym (text "x"), .num 3]], .sym (text "x")])
      { Policies.usual .warn with limit := 4 } (Session.new (.usual .warn)).world).1 := by
  have hop : text "-" ∈ [text "-", text "/"] := by decide
  have hargs : [Value.list [.sym (text "def"), .sym (text "x"), .num 8],
      .list [.sym (text "set"), .sym (text "x"), .num 3]] ≠ [] := List.cons_ne_nil _ _
  have hsame := evaluate_leftNested { Policies.usual .warn with limit := 4 } rfl 0 hop hargs
    [.sym (text "x")] (Session.new (.usual .warn)).world
    (fun l x => evaluate_ne_tooDeep _ _ (by decide) (by decide) l x .nil)
  simpa only [List.cons_append, List.nil_append] using hsame.1

/-! ### First arguments that are literals -/

section Literals

variable {p : Policies} {env : ScopeId}

/-- The policies with a given one for first arguments. -/
def Policies.seeded (p : Policies) (seed : SeedPolicy) : Policies := { p with seed }

/-- The comparison depends on the head only through what equals it. -/
theorem Operation.allEqual_congr {head head' : Value} (h : head.equals = head'.equals)
    (self : Evaluator) (env : ScopeId) (args : List Value) :
    allEqual self env head args = allEqual self env head' args := by
  induction args with
  | nil => rfl
  | cons e rest ih => rw [allEqual, allEqual, h, ih]

/-- A literal counts as the same number whether it is evaluated or not. -/
theorem outlasts_seed_of_isInert {v : Value} (hv : v.isInert = true) (room : Nat)
    (self : Evaluator) :
    ((p.seeded .evaluated).outlasts (p.seeded .raw) env).Simulates (fun _ => True)
      (Operation.seed (Registry.base.evaluateWithin room) env v)
      (Operation.seed self env v) := by
  cases room with
  | zero => exact outlasts_seed_without_room rfl v _
  | succ room =>
    intro w w' hview
    have hnumber : (if v.isNil then Value.nil else v).asNum = v.asNum := by
      cases v <;> rfl
    have hfirst : Operation.seed (Registry.base.evaluateWithin (room + 1)) env v
        (p.seeded .evaluated) w = (.value v.asNum, w.entered.exited) := by
      rw [← hnumber]
      exact Evaluation.bind_of_value (evaluateWithin_inert hv Registry.base room w)
    have hfirst' : Operation.seed self env v (p.seeded .raw) w' = (.value v.asNum, w') := rfl
    rw [hfirst, hfirst']
    exact .value trivial ⟨hview.heap_eq, hview.log_eq⟩

/-- Values are compared with a literal in the same way whether it is evaluated or not. -/
theorem outlasts_equal_of_isInert {v : Value} (hv : v.isInert = true) {rest : List Value}
    {room : Nat}
    (hrest : ∀ a ∈ rest,
      ((p.seeded .evaluated).outlasts (p.seeded .raw) env).Simulates (fun _ => True)
        (Registry.base.evaluateWithin room env a) (Registry.base.evaluateWithin room env a)) :
    ((p.seeded .evaluated).outlasts (p.seeded .raw) env).Simulates (fun _ => True)
      (Operation.equal (Registry.base.evaluateWithin room) env (v :: rest))
      (Operation.equal (Registry.base.evaluateWithin room) env (v :: rest)) := by
  intro w w' hview
  cases room with
  | zero => exact outlasts_tooDeep p.limit v w _
  | succ room =>
    have hequals : (if v.isNil then Value.nil else v).equals = v.equals := by
      funext b
      rw [Value.equals_comm, Value.equals_settled, Value.equals_comm]
    have hfirst : Operation.seedValue (Registry.base.evaluateWithin (room + 1)) env v
        (p.seeded .evaluated) w = (.value (if v.isNil then .nil else v), w.entered.exited) :=
      evaluateWithin_inert hv Registry.base room w
    have hfirst' : Operation.seedValue (Registry.base.evaluateWithin (room + 1)) env v
        (p.seeded .raw) w' = (.value v, w') := rfl
    have hview' : w.entered.exited.SameView w' := ⟨hview.heap_eq, hview.log_eq⟩
    rw [Operation.equal, Evaluation.bind_of_value hfirst, Evaluation.bind_of_value hfirst',
      Operation.allEqual_congr hequals]
    exact (Simulation.Simulates.bind (Simulation.allEqual hrest v) fun _ _ => .pure trivial) hview'

/-- An expression without code that is made on the way, and with literals as first arguments of
subtractions, divisions and comparisons. -/
def Value.LiteralSeeds (e : Value) : Prop :=
  ∀ a ∈ e.applications, a.1.headText ≠ text "eval" ∧
    (a.1.headText ∈ [text "-", text "/", text "="] → ∀ first ∈ a.2.head?, first.isInert = true)

/-- With literals as first arguments, it does not matter whether these are evaluated, unless there
is no room for it. -/
theorem outlasts_of_literalSeeds {e : Value} (hcode : e.LiteralSeeds) (room : Nat) :
    ((p.seeded .evaluated).outlasts (p.seeded .raw) env).Simulates (fun _ => True)
      (Registry.base.evaluateWithin room env e) (Registry.base.evaluateWithin room env e) := by
  have law : ((p.seeded .evaluated).outlasts (p.seeded .raw) env).Lawful := outlasts_lawful rfl rfl
  refine Value.code_induction (motive := fun e => ∀ room,
    ((p.seeded .evaluated).outlasts (p.seeded .raw) env).Simulates (fun _ => True)
      (Registry.base.evaluateWithin room env e) (Registry.base.evaluateWithin room env e))
    ?leaf ?call hcode room
  case leaf =>
    intro e hleaf room
    cases room with
    | zero => exact outlasts_without_room e _
    | succ room =>
      refine Simulation.Simulates.nested outlasts_nests (law.step_of_apply ?_)
      intro head args he
      exact absurd he (hleaf head args)
  case call =>
    rintro head args ⟨hname, hfirst⟩ ih room
    cases room with
    | zero => exact outlasts_without_room _ _
    | succ room =>
      have hargs : ∀ a ∈ args,
          ((p.seeded .evaluated).outlasts (p.seeded .raw) env).Simulates (fun _ => True)
            (Registry.base.evaluateWithin room env a)
            (Registry.base.evaluateWithin room env a) := fun a ha => ih a ha room
      refine Simulation.Simulates.nested outlasts_nests (law.apply_of_args hname hargs ?_ ?_)
      · intro hsign
        cases args with
        | nil => exact .pure trivial
        | cons first rest =>
          exact outlasts_equal_of_isInert (hfirst (by simp [hsign]) first rfl)
            fun a ha => hargs a (List.mem_cons_of_mem first ha)
      · intro hsign
        refine law.fold_of_seed hargs fun first hmem => ?_
        refine outlasts_seed_of_isInert (hfirst ?_ first hmem) room _
        rcases hsign with hsign | hsign <;> simp [hsign]

end Literals

/-- The policies for first arguments agree where these are literals. An evaluation that evaluates
them, and does not end beyond the limit, has the same outcome and leaves the same environments and
the same log as one that takes them as they are written. -/
theorem evaluate_of_literalSeeds (p : Policies) (env : ScopeId) {e : Value}
    (hcode : e.LiteralSeeds) (w : World)
    (hended : ∀ l x, (Registry.base.evaluate env e (p.seeded .evaluated) w).1 ≠
      .failed ⟨.tooDeep l x, .nil⟩) :
    (Registry.base.evaluate env e (p.seeded .raw) w).1 =
      (Registry.base.evaluate env e (p.seeded .evaluated) w).1 ∧
    (Registry.base.evaluate env e (p.seeded .raw) w).2.heap =
      (Registry.base.evaluate env e (p.seeded .evaluated) w).2.heap ∧
    (Registry.base.evaluate env e (p.seeded .raw) w).2.log =
      (Registry.base.evaluate env e (p.seeded .evaluated) w).2.log := by
  have hview : w.SameView w := ⟨rfl, rfl⟩
  exact outlasts_same (outlasts_of_literalSeeds hcode (p.limit - w.depth) hview) hended

/-- A value without a kind is compared with the difference of a literal and a definition. -/
theorem evaluate_of_literalSeeds_comparison :
    (Registry.base.evaluate 0
      (.list [.sym (text "="), .untyped,
        .list [.sym (text "-"), .num 8, .list [.sym (text "def"), .sym (text "x"), .num 3]]])
      ({ Policies.usual .warn with limit := 4 }.seeded .raw) (Session.new (.usual .warn)).world).1 =
    (Registry.base.evaluate 0
      (.list [.sym (text "="), .untyped,
        .list [.sym (text "-"), .num 8, .list [.sym (text "def"), .sym (text "x"), .num 3]]])
      ({ Policies.usual .warn with limit := 4 }.seeded .evaluated)
      (Session.new (.usual .warn)).world).1 := by
  have hcode : (Value.list [.sym (text "="), .untyped, .list [.sym (text "-"), .num 8,
      .list [.sym (text "def"), .sym (text "x"), .num 3]]]).LiteralSeeds := by
    unfold Value.LiteralSeeds
    decide
  exact (evaluate_of_literalSeeds _ 0 hcode _
    fun l x => evaluate_ne_tooDeep _ _ (by decide) (by decide) l x .nil).1

end Lisplet
