import Lisplet.Proofs.Evaluator.Dispatch
import Lisplet.Proofs.Evaluator.Ending
import Lisplet.Proofs.Store

/-!
# Registering further operations

A call asks for the values of some expressions, one after the other, and which ones may depend on
the values so far. If the requests of the special forms and base operations are written down, it
can be said which names an evaluation calls although nothing has them. The evaluation depends on
these names only: registering an operation under another name changes nothing, and under one of them
it can change everything. The names of special forms are never among them, so special forms cannot
be redefined.
-/

namespace Lisplet

/-- The value of an expression is asked for, in a given world. -/
structure Request where
  /-- The expression. -/
  expression : Value
  /-- The world in which it is to be evaluated. -/
  world : World

/-- What an evaluator answers to a request. -/
def Request.answer (x : Request) (self : Evaluator) (env : ScopeId) (p : Policies) :
    Outcome Value × World :=
  self env x.expression p x.world

/-! ### What a call asks for -/

section Requests

variable (self : Evaluator) (env : ScopeId) (p : Policies)

/-- A request for the value of an expression, and what is asked for next if there is a value. -/
def Evaluator.request (e : Value) (w : World) (next : Value → World → List Request) :
    List Request :=
  ⟨e, w⟩ :: match self env e p w with
    | (.value v, w') => next v w'
    | _ => []

/-- The requests for the values of expressions in order. They end behind a value that is not to be
followed by another. -/
def Evaluator.requests (goesOn : Value → Bool) : List Value → World → List Request
  | [], _ => []
  | e :: rest, w =>
    self.request env p e w fun v w' => if goesOn v then requests goesOn rest w' else []

/-- The requests of a special form. -/
def SpecialForm.requests (form : SpecialForm) (args : List Value) (w : World) : List Request :=
  match form, args with
  | .sequence, args => self.requests env p (fun _ => true) args w
  | .conditional, condition :: first :: rest =>
    self.request env p condition w fun c w' =>
      if c.isTruthy then [⟨first, w'⟩] else (rest.head?.map (⟨·, w'⟩)).toList
  | .define, .sym _ :: e :: _ => [⟨e, w⟩]
  | .assign, .sym name :: e :: _ => if w.heap.has env name then [⟨e, w⟩] else []
  | _, _ => []

/-- The requests of the operation that evaluates twice. A value that is a text is read first. -/
def Operation.requestsOfEval (args : List Value) (w : World) : List Request :=
  match args with
  | [] => []
  | e :: _ => self.request env p e w fun v w' =>
    match v with
    | .str code => (parse code).toOption.toList.map (⟨·, w'⟩)
    | v => [⟨v, w'⟩]

/-- The requests of an operation that begins with its first argument. Each further value is compared
with it, where the values have to go on. -/
def Operation.requestsOfSeed (goesOn : Value → Value → Bool) (args : List Value) (w : World) :
    List Request :=
  match args with
  | [] => []
  | e :: rest =>
    match p.seed with
    | .raw => self.requests env p (goesOn e) rest w
    | .evaluated =>
      self.request env p e w fun head w' => self.requests env p (goesOn head) rest w'

/-- The requests of a call by name. What is no special form and no base operation asks for
nothing. -/
def Registry.requestsOf (name : Text) (args : List Value) (w : World) : List Request :=
  match SpecialForm.ofName? name with
  | some form => form.requests self env p args w
  | none =>
    if name = text "eval" then Operation.requestsOfEval self env p args w
    else if name = text "+" ∨ name = text "*" then self.requests env p (fun _ => true) args w
    else if name = text "-" ∨ name = text "/" then
      Operation.requestsOfSeed self env p (fun _ _ => true) args w
    else if name = text "=" then Operation.requestsOfSeed self env p Value.equals args w
    else []

end Requests

/-- Whether a name belongs to no special form and to no base operation. -/
def isUnknown (name : Text) : Bool := !isSpecialForm name && !Registry.base.holds name

/-- The unknown names that are called on the way to the answer to a request, in order, if no more
than `room` evaluations may be nested. -/
def unknownCalls (env : ScopeId) (p : Policies) : (room : Nat) → Request → List Text
  | 0, _ => []
  | room + 1, x =>
    match x.expression with
    | .list (head :: args) =>
      (if isUnknown head.headText then [head.headText] else []) ++
        (Registry.requestsOf (Registry.base.evaluateWithin room) env p head.headText args
          x.world.entered).flatMap (unknownCalls env p room)
    | _ => []

/-! ### One call with two evaluators -/

/-- An end of the given kind. -/
def Tripped {α : Type} (Trips : Stop → Prop) (out : Outcome α × World) : Prop :=
  ∃ s w, Trips s ∧ out = (s.outcome, w)

/-- Two ends of a call that depend on the answers to some requests. If a second evaluator gives the
same answers as the first, the end is the same. The only other way is that one of its answers, and
then the call as a whole, ends in a given way. -/
inductive Beside {α : Type} (Trips : Stop → Prop) (self self' : Evaluator) (env : ScopeId)
    (p : Policies) (xs : List Request) (out out' : Outcome α × World) : Prop
  | same (answers : ∀ x ∈ xs, x.answer self' env p = x.answer self env p) (ends : out' = out)
  | tripped (answer : ∃ x ∈ xs, Tripped Trips (x.answer self' env p)) (ends : Tripped Trips out')

section Beside

variable {α β : Type} {Trips : Stop → Prop} {self self' : Evaluator} {env : ScopeId} {p : Policies}
  {w : World} {args : List Value}

/-- The second evaluator answers some requests like the first, or trips. -/
def Heard (Trips : Stop → Prop) (self self' : Evaluator) (env : ScopeId) (p : Policies)
    (xs : List Request) : Prop :=
  ∀ x ∈ xs, x.answer self' env p = x.answer self env p ∨ Tripped Trips (x.answer self' env p)

/-- A call that asks for nothing. -/
theorem Beside.refl (out : Outcome α × World) : Beside Trips self self' env p [] out out :=
  .same (by simp) rfl

/-- A call that ends with a request. -/
theorem Beside.last {e : Value} (h : Heard Trips self self' env p [⟨e, w⟩]) :
    Beside Trips self self' env p [⟨e, w⟩] (self env e p w) (self' env e p w) := by
  rcases h ⟨e, w⟩ (List.mem_singleton.mpr rfl) with hsame | htripped
  · exact .same (by simpa using hsame) hsame
  · exact .tripped ⟨_, List.mem_singleton.mpr rfl, htripped⟩ htripped

/-- A call that begins with a request and goes on with the value, if there is one. -/
theorem Beside.request {e : Value} {next : Value → World → List Request}
    {f f' : Value → Evaluation α} (h : Heard Trips self self' env p (self.request env p e w next))
    (hnext : ∀ v w', Heard Trips self self' env p (next v w') →
      Beside Trips self self' env p (next v w') (f v p w') (f' v p w')) :
    Beside Trips self self' env p (self.request env p e w next) ((self env e >>= f) p w)
      ((self' env e >>= f') p w) := by
  rw [Heard, Evaluator.request, List.forall_mem_cons] at h
  obtain ⟨hfirst, hrest⟩ := h
  rw [Evaluator.request]
  rcases hfirst with hsame | ⟨s, w', hs, htripped⟩
  · have hrun' : self' env e p w = self env e p w := hsame
    rcases hrun : self env e p w with ⟨v | result | failure, w'⟩
    · rw [hrun] at hrest hrun'
      rw [Evaluation.bind_of_value hrun, Evaluation.bind_of_value hrun']
      rcases hnext v w' hrest with ⟨hanswers, hends⟩ | ⟨⟨x, hx, hanswer⟩, hends⟩
      · exact .same (List.forall_mem_cons.mpr ⟨hsame, hanswers⟩) hends
      · exact .tripped ⟨x, List.mem_cons_of_mem _ hx, hanswer⟩ hends
    · rw [Evaluation.bind_of_failed hrun, Evaluation.bind_of_failed (hrun'.trans hrun)]
      exact .same (by simpa using hsame) rfl
    · have hstop : self env e p w = ((Stop.aborted failure).outcome, w') := hrun
      rw [Evaluation.bind_of_stop hstop, Evaluation.bind_of_stop (hrun'.trans hstop)]
      exact .same (by simpa using hsame) rfl
  · refine .tripped ⟨_, List.mem_cons_self, s, w', hs, htripped⟩ ⟨s, w', hs, ?_⟩
    exact Evaluation.bind_of_stop htripped

/-- A call with one request, behind which nothing is asked for. -/
theorem Beside.only {e : Value} (h : Heard Trips self self' env p [⟨e, w⟩])
    (f : Value → Evaluation α) :
    Beside Trips self self' env p [⟨e, w⟩] ((self env e >>= f) p w) ((self' env e >>= f) p w) := by
  have hrequest : self.request env p e w (fun _ _ => []) = [⟨e, w⟩] := by
    rw [Evaluator.request]
    split <;> rfl
  rw [← hrequest] at h ⊢
  exact .request h fun v w' _ => .refl _

/-- What a call makes of its result asks for nothing. -/
theorem Beside.map {xs : List Request} {x x' : Evaluation α}
    (h : Beside Trips self self' env p xs (x p w) (x' p w)) (f : α → β) :
    Beside Trips self self' env p xs ((x >>= fun a => pure (f a)) p w)
      ((x' >>= fun a => pure (f a)) p w) := by
  rcases h with ⟨hanswers, hends⟩ | ⟨hanswer, s, w', hs, hends⟩
  · refine .same hanswers ?_
    simp only [bind, Evaluation.andThen, hends]
  · exact .tripped hanswer ⟨s, w', hs, Evaluation.bind_of_stop hends⟩

/-- The expressions of a sequence. -/
theorem Beside.inOrder
    (h : Heard Trips self self' env p (self.requests env p (fun _ => true) args w)) (last : Value) :
    Beside Trips self self' env p (self.requests env p (fun _ => true) args w)
      (self.inOrder env last args p w) (self'.inOrder env last args p w) := by
  induction args generalizing last w with
  | nil => exact .refl _
  | cons e rest ih => exact .request h fun v w' hrest => ih hrest v

/-- The arguments that are combined to a number. -/
theorem Beside.combine
    (h : Heard Trips self self' env p (self.requests env p (fun _ => true) args w))
    (f : Float → Float → Float) (total : Float) :
    Beside Trips self self' env p (self.requests env p (fun _ => true) args w)
      (self.combine env f total args p w) (self'.combine env f total args p w) := by
  induction args generalizing total w with
  | nil => exact .refl _
  | cons e rest ih =>
    rw [Evaluator.combine, Evaluator.combine, Evaluator.number, Evaluator.number,
      Evaluation.bind_assoc, Evaluation.bind_assoc]
    exact .request h fun v w' hrest => ih hrest (f total v.asNum)

/-- The arguments that are compared with a head, until one differs. -/
theorem Beside.allEqual {head : Value}
    (h : Heard Trips self self' env p (self.requests env p head.equals args w)) :
    Beside Trips self self' env p (self.requests env p head.equals args w)
      (Operation.allEqual self env head args p w) (Operation.allEqual self' env head args p w) := by
  induction args generalizing w with
  | nil => exact .refl _
  | cons e rest ih =>
    refine .request h fun v w' hrest => ?_
    by_cases hequal : head.equals v = true
    · rw [if_pos hequal] at hrest
      simp only [hequal, if_true]
      exact ih hrest
    · simp only [hequal]
      exact .refl _

/-! ### Special forms and operations -/

/-- The conditional asks for its condition and for one of its branches. -/
theorem Beside.conditional
    (h : Heard Trips self self' env p (SpecialForm.conditional.requests self env p args w)) :
    Beside Trips self self' env p (SpecialForm.conditional.requests self env p args w)
      (SpecialForm.runConditional self env args p w)
      (SpecialForm.runConditional self' env args p w) := by
  rcases args with _ | ⟨condition, _ | ⟨first, rest⟩⟩
  · exact .refl _
  · exact .refl _
  · refine .request h fun c w' hrest => ?_
    by_cases hc : c.isTruthy = true
    · rw [if_pos hc] at hrest
      simp only [hc, if_true]
      exact .last hrest
    · rw [if_neg hc] at hrest
      simp only [hc]
      cases rest with
      | nil => exact .refl _
      | cons second _ => exact .last hrest

/-- Where a form is misused, it does not matter what would be done next. -/
theorem Beside.misused (e : FormError) (f f' : α → Evaluation β) :
    Beside Trips self self' env p [] ((Evaluation.misuse e >>= f) p w)
      ((Evaluation.misuse e >>= f') p w) := by
  rw [Evaluation.bind_of_stop (Evaluation.misuse_apply e p w),
    Evaluation.bind_of_stop (Evaluation.misuse_apply e p w)]
  exact .refl _

/-- The definition asks for its value. -/
theorem Beside.define
    (h : Heard Trips self self' env p (SpecialForm.define.requests self env p args w)) :
    Beside Trips self self' env p (SpecialForm.define.requests self env p args w)
      (SpecialForm.runDefine self env args p w) (SpecialForm.runDefine self' env args p w) := by
  rcases args with _ | ⟨v, rest⟩
  · exact .misused _ _ _
  · cases v with
    | sym name =>
      cases rest with
      | nil => exact .refl _
      | cons e _ => exact .only h _
    | _ => exact .misused _ _ _

/-- The assignment asks for its value if the name is bound. -/
theorem Beside.assign
    (h : Heard Trips self self' env p (SpecialForm.assign.requests self env p args w)) :
    Beside Trips self self' env p (SpecialForm.assign.requests self env p args w)
      (SpecialForm.runAssign self env args p w) (SpecialForm.runAssign self' env args p w) := by
  rcases args with _ | ⟨v, rest⟩
  · exact .misused _ _ _
  · cases v with
    | sym name =>
      cases rest with
      | nil => exact .refl _
      | cons e rest =>
        have hrun : ∀ self : Evaluator,
            SpecialForm.runAssign self env (.sym name :: e :: rest) p w =
            (if w.heap.has env name then self env e >>= fun v => do
                let h ← Evaluation.heap
                Evaluation.putHeap ((h.assign? env name v).getD h)
                pure v
              else .misuse ⟨.assign, .sym name :: e :: rest, .notBound name⟩) p w := fun _ => rfl
        rw [SpecialForm.requests] at h ⊢
        rw [hrun, hrun]
        by_cases hbound : w.heap.has env name = true
        · simp only [hbound, if_true] at h ⊢
          exact .only h _
        · simp only [hbound] at h ⊢
          exact .refl _
    | _ => exact .misused _ _ _

/-- Every special form depends on its requests only. -/
theorem Beside.specialForm (form : SpecialForm)
    (h : Heard Trips self self' env p (form.requests self env p args w)) :
    Beside Trips self self' env p (form.requests self env p args w) (form.run self env args p w)
      (form.run self' env args p w) := by
  cases form with
  | sequence => exact .inOrder h .nil
  | conditional => exact .conditional h
  | define => exact .define h
  | assign => exact .assign h
  | function => exact .refl _

/-- The operation that evaluates twice asks for its argument and for the value of this. -/
theorem Beside.eval
    (h : Heard Trips self self' env p (Operation.requestsOfEval self env p args w)) :
    Beside Trips self self' env p (Operation.requestsOfEval self env p args w)
      (Operation.eval self env args p w) (Operation.eval self' env args p w) := by
  cases args with
  | nil => exact .refl _
  | cons e rest =>
    refine .request h fun v w' hnext => ?_
    cases v with
    | str code =>
      simp only [Evaluator.evalText]
      cases hparse : parse code with
      | error error => exact .refl _
      | ok e =>
        simp only [hparse] at hnext
        exact .last hnext
    | _ => exact .last hnext

/-- Subtraction and division. -/
theorem Beside.fold
    (h : Heard Trips self self' env p
      (Operation.requestsOfSeed self env p (fun _ _ => true) args w))
    (f : Float → Float → Float) :
    Beside Trips self self' env p (Operation.requestsOfSeed self env p (fun _ _ => true) args w)
      (Operation.fold f self env args p w) (Operation.fold f self' env args p w) := by
  cases args with
  | nil => exact .refl _
  | cons e rest =>
    rw [Operation.fold, Operation.fold, Operation.seed, Operation.seed, Evaluation.bind_assoc,
      Evaluation.bind_assoc, Evaluation.policies_bind, Evaluation.policies_bind]
    rw [Operation.requestsOfSeed] at h ⊢
    cases hseed : p.seed with
    | raw =>
      rw [hseed] at h
      exact .map (.combine h f e.asNum) Value.num
    | evaluated =>
      rw [hseed] at h
      simp only [Evaluator.number, Evaluation.bind_assoc]
      exact .request h fun v w' hrest => .map (.combine hrest f v.asNum) Value.num

/-- The comparison. -/
theorem Beside.equal
    (h : Heard Trips self self' env p (Operation.requestsOfSeed self env p Value.equals args w)) :
    Beside Trips self self' env p (Operation.requestsOfSeed self env p Value.equals args w)
      (Operation.equal self env args p w) (Operation.equal self' env args p w) := by
  cases args with
  | nil => exact .refl _
  | cons e rest =>
    rw [Operation.equal, Operation.equal, Operation.seedValue, Operation.seedValue,
      Evaluation.bind_assoc, Evaluation.bind_assoc, Evaluation.policies_bind,
      Evaluation.policies_bind]
    rw [Operation.requestsOfSeed] at h ⊢
    cases hseed : p.seed with
    | raw =>
      rw [hseed] at h
      exact .map (.allEqual h) Value.bool
    | evaluated =>
      rw [hseed] at h
      exact .request h fun v w' hrest => .map (.allEqual hrest) Value.bool

/-- Nothing is registered in the base under an unknown name, and such a call asks for nothing. -/
theorem Registry.requestsOf_of_get?_eq_none {name : Text}
    (hspecial : SpecialForm.ofName? name = none)
    (hname : Registry.base.get? name = none) : requestsOf self env p name args w = [] := by
  have hne : ∀ known ∈ Registry.base.keys, name ≠ known := by
    rintro known hknown rfl
    have hheld := Dictionary.holds_iff_mem_keys.mpr hknown
    rw [Dictionary.holds, hname] at hheld
    cases hheld
  have hkeys : Registry.base.keys =
      [text "*", text "+", text "-", text "/", text "=", text "eval"] := by decide
  rw [hkeys] at hne
  simp only [List.forall_mem_cons] at hne
  simp [requestsOf, hspecial, hne]

/-- Every call by name depends on its requests only. -/
theorem Beside.apply {name : Text}
    (h : Heard Trips self self' env p (Registry.requestsOf self env p name args w)) :
    Beside Trips self self' env p (Registry.requestsOf self env p name args w)
      (Registry.base.apply self env name args p w)
      (Registry.base.apply self' env name args p w) := by
  rw [Registry.apply, Registry.apply]
  cases hspecial : SpecialForm.ofName? name with
  | some form =>
    simp only [Registry.requestsOf, hspecial] at h ⊢
    exact .specialForm form h
  | none =>
    cases hoperation : Registry.base.get? name with
    | none =>
      rw [Registry.requestsOf_of_get?_eq_none hspecial hoperation]
      exact .refl _
    | some operation =>
      rw [Registry.requestsOf, hspecial] at h ⊢
      rcases Registry.base_cases hoperation with
        ⟨rfl, rfl⟩ | ⟨rfl, rfl⟩ | ⟨rfl, rfl⟩ | ⟨rfl, rfl⟩ | ⟨rfl, rfl⟩ | ⟨rfl, rfl⟩
      · exact .eval h
      · exact .equal h
      · exact .map (.combine h _ _) Value.num
      · exact .map (.combine h _ _) Value.num
      · exact .fold h _
      · exact .fold h _

end Beside

/-! ### One operation more -/

namespace Registry

/-- Special forms come before operations, so an operation is only called by a name that is no
special form. -/
theorem apply_insert (r : Registry) {name other : Text} (operation : Operation)
    (hother : other = name → isSpecialForm name = true) (self : Evaluator) (env : ScopeId)
    (args : List Value) :
    apply (Dictionary.insert name operation r) self env other args =
      r.apply self env other args := by
  rw [apply, apply]
  cases hspecial : SpecialForm.ofName? other with
  | some form => rfl
  | none =>
    have hne : name ≠ other := by
      rintro rfl
      have hform := hother rfl
      rw [isSpecialForm, hspecial] at hform
      cases hform
    rw [Dictionary.get?_insert, if_neg hne]

/-- Registries whose calls are all the same evaluate in the same way. -/
theorem evaluateWithin_congr {r r' : Registry}
    (happly : ∀ self env name args, r'.apply self env name args = r.apply self env name args)
    (room : Nat) : r'.evaluateWithin room = r.evaluateWithin room := by
  induction room with
  | zero => rfl
  | succ room ih =>
    have hstep : r'.step (r.evaluateWithin room) = r.step (r.evaluateWithin room) := by
      funext env e
      rcases e with _ | _ | _ | _ | _ | _ | _ | (_ | ⟨head, args⟩) | _
      case list.cons => exact happly _ _ _ _
      all_goals rfl
    rw [evaluateWithin, evaluateWithin, ih, hstep]

/-- The base operations and one more. -/
def baseWith (name : Text) (operation : Operation) : Registry :=
  Dictionary.insert name operation base

end Registry

section Extension

variable {name : Text} {env : ScopeId} {p : Policies}

/-- An unknown name is called by a call if it is the name of the call or is called by one of its
requests. -/
theorem mem_unknownCalls_call {room : Nat} {head : Value} {args : List Value} {w : World} :
    name ∈ unknownCalls env p (room + 1) ⟨.list (head :: args), w⟩ ↔
      (head.headText = name ∧ isUnknown name = true) ∨
      ∃ x ∈ Registry.requestsOf (Registry.base.evaluateWithin room) env p head.headText args
        w.entered, name ∈ unknownCalls env p room x := by
  simp only [unknownCalls, List.mem_append, List.mem_flatMap]
  refine or_congr_left ?_
  by_cases hname : head.headText = name
  · simp [hname]
  · have hname' : name ≠ head.headText := fun h => hname h.symm
    split <;> simp [hname, hname']

/-- A call that is not by the new name is one of base operations. -/
theorem apply_baseWith (hname : Registry.base.holds name = false) (operation : Operation)
    {other : Text} (hother : ¬ (other = name ∧ isUnknown name = true)) (self : Evaluator)
    (args : List Value) :
    (Registry.baseWith name operation).apply self env other args =
      Registry.base.apply self env other args := by
  refine Registry.apply_insert _ operation (fun hsame => ?_) self env args
  by_contra hspecial
  exact hother ⟨hsame, by simp [isUnknown, hname, hspecial]⟩

/-- Where the new name is not called, all answers are the same. -/
theorem answer_baseWith (hname : Registry.base.holds name = false) (operation : Operation)
    {room : Nat} {x : Request} (hcalls : name ∉ unknownCalls env p room x) :
    x.answer ((Registry.baseWith name operation).evaluateWithin room) env p =
      x.answer (Registry.base.evaluateWithin room) env p := by
  induction room generalizing x with
  | zero => rfl
  | succ room ih =>
    obtain ⟨e, w⟩ := x
    suffices hstep : (Registry.baseWith name operation).step
        ((Registry.baseWith name operation).evaluateWithin room) env e p w.entered =
          Registry.base.step (Registry.base.evaluateWithin room) env e p w.entered by
      simp only [Request.answer, Registry.evaluateWithin_succ_apply, hstep]
    rcases e with _ | _ | _ | _ | _ | _ | _ | (_ | ⟨head, args⟩) | _
    case list.cons =>
      rw [mem_unknownCalls_call, not_or] at hcalls
      obtain ⟨hhead, hinside⟩ := hcalls
      rw [Registry.step, Registry.step, apply_baseWith hname operation hhead]
      -- No answer can trip here, so the only way left is that all answers are the same.
      have hheard : Heard (fun _ => False) (Registry.base.evaluateWithin room)
          ((Registry.baseWith name operation).evaluateWithin room) env p
          (Registry.requestsOf (Registry.base.evaluateWithin room) env p head.headText args
            w.entered) := fun x hx => .inl (ih fun hmem => hinside ⟨x, hx, hmem⟩)
      rcases Beside.apply hheard with ⟨-, hends⟩ | ⟨-, s, w', hs, -⟩
      · exact hends
      · exact hs.elim
    all_goals rfl

/-- The operation that breaks everything off. -/
def Operation.alarm : Operation := fun _ _ _ _ w => (.aborted (.plain []), w)

/-- How the operation that breaks everything off ends an evaluation. -/
def isAlarm (s : Stop) : Prop := s = .aborted (.plain [])

/-- No special form or base operation breaks off in this way. -/
theorem not_tripped_base (room : Nat) (x : Request) :
    ¬ Tripped isAlarm (x.answer (Registry.base.evaluateWithin room) env p) := by
  rintro ⟨s, w, rfl, hends⟩
  have hkeeps : (quietly p env x.world.log).Keeps (fun _ => True)
      (Registry.base.evaluateWithin room env x.expression) :=
    quietly_lawful.evaluateWithin quietly_nests room x.expression
  have hclassified := classified_of_keeps hkeeps
  rw [Request.answer] at hends
  rw [hends] at hclassified
  obtain ⟨-, error, herror⟩ := hclassified.broken _ rfl
  cases herror

/-- Where the new name is called, its operation can break everything off. -/
theorem tripped_baseWith (hname : Registry.base.holds name = false) {room : Nat} {x : Request}
    (hcalls : name ∈ unknownCalls env p room x) :
    Tripped isAlarm (x.answer ((Registry.baseWith name .alarm).evaluateWithin room) env p) := by
  induction room generalizing x with
  | zero => cases hcalls
  | succ room ih =>
    obtain ⟨e, w⟩ := x
    suffices hstep : Tripped isAlarm ((Registry.baseWith name .alarm).step
        ((Registry.baseWith name .alarm).evaluateWithin room) env e p w.entered) by
      obtain ⟨s, w', hs, hends⟩ := hstep
      refine ⟨s, w'.exited, hs, ?_⟩
      simp only [Request.answer, Registry.evaluateWithin_succ_apply, hends]
    rcases e with _ | _ | _ | _ | _ | _ | _ | (_ | ⟨head, args⟩) | _
    case list.cons =>
      rw [mem_unknownCalls_call] at hcalls
      rw [Registry.step]
      by_cases hhead : head.headText = name ∧ isUnknown name = true
      · obtain ⟨rfl, hunknown⟩ := hhead
        have hspecial : isSpecialForm head.headText = false := by
          simp only [isUnknown, Bool.and_eq_true, Bool.not_eq_true'] at hunknown
          exact hunknown.1
        rw [Registry.apply_of_not_special _ _ _ hspecial, Registry.baseWith, Dictionary.get?_insert,
          if_pos rfl]
        exact ⟨_, _, rfl, rfl⟩
      · obtain ⟨x, hx, hmem⟩ := hcalls.resolve_left hhead
        rw [apply_baseWith hname .alarm hhead]
        have hheard : Heard isAlarm (Registry.base.evaluateWithin room)
            ((Registry.baseWith name .alarm).evaluateWithin room) env p
            (Registry.requestsOf (Registry.base.evaluateWithin room) env p head.headText args
              w.entered) := by
          intro y hy
          by_cases hcalled : name ∈ unknownCalls env p room y
          · exact .inr (ih hcalled)
          · exact .inl (answer_baseWith hname .alarm hcalled)
        rcases Beside.apply hheard with ⟨hanswers, -⟩ | ⟨-, hends⟩
        · exact absurd ((hanswers x hx) ▸ ih hmem) (not_tripped_base room x)
        · exact hends
    all_goals cases hcalls

end Extension

/-! ### Sessions -/

namespace Session

/-- The unknown names that a session calls when it evaluates an expression. -/
def unknownCalls (s : Session) (env : ScopeId) (e : Value) : List Text :=
  Lisplet.unknownCalls env s.policies (s.policies.limit - s.world.depth) ⟨e, s.world⟩

/-- An operation makes no difference to a session exactly if it makes none to its registry. -/
theorem evaluateIn_register_eq_iff (s : Session) (name : Text) (operation : Operation)
    (env : ScopeId) (e : Value) :
    (s.register name operation).evaluateIn env e =
        ((s.evaluateIn env e).1, (s.evaluateIn env e).2.register name operation) ↔
      Registry.evaluate (Dictionary.insert name operation s.registry) env e s.policies s.world =
        s.registry.evaluate env e s.policies s.world := by
  simp [evaluateIn, perform, register, Prod.ext_iff]

/-- Special forms cannot be redefined, whatever else is registered. -/
theorem evaluateIn_register_special (s : Session) (form : SpecialForm) (operation : Operation)
    (env : ScopeId) (e : Value) :
    (s.register form.name operation).evaluateIn env e =
      ((s.evaluateIn env e).1, (s.evaluateIn env e).2.register form.name operation) := by
  rw [evaluateIn_register_eq_iff, Registry.evaluate, Registry.evaluate]
  have hspecial : isSpecialForm form.name = true := by
    cases form <;> decide
  rw [Registry.evaluateWithin_congr fun self env name args =>
    s.registry.apply_insert operation (fun _ => hspecial) self env args]

/-- Registering an operation is a conservative extension. A session with the base operations does
the same with any further operation, registered under a name that is free, exactly if it does not
call this name: the outcome is the same, and so are the environments, the log and all else of the
session. Under the name of a special form an operation never makes a difference. -/
theorem evaluateIn_register (s : Session) (hbase : s.registry = .base) (env : ScopeId)
    (e : Value) :
    (∀ name, name ∉ s.registry.keys →
      (name ∉ s.unknownCalls env e ↔
        ∀ operation, (s.register name operation).evaluateIn env e =
          ((s.evaluateIn env e).1, (s.evaluateIn env e).2.register name operation))) ∧
    ∀ (form : SpecialForm) operation, (s.register form.name operation).evaluateIn env e =
      ((s.evaluateIn env e).1, (s.evaluateIn env e).2.register form.name operation) := by
  refine ⟨fun name hname => ?_, fun form operation =>
    s.evaluateIn_register_special form operation env e⟩
  have hfree : Registry.base.holds name = false := by
    rw [← hbase, ← Bool.not_eq_true, Dictionary.holds_iff_mem_keys]
    exact hname
  constructor
  · intro hcalls operation
    rw [evaluateIn_register_eq_iff, hbase]
    exact answer_baseWith hfree operation hcalls
  · intro hsame hcalls
    have halarm := (s.evaluateIn_register_eq_iff name .alarm env e).mp (hsame .alarm)
    have htripped := tripped_baseWith hfree hcalls
    rw [hbase] at halarm
    have hanswer : Request.answer ⟨e, s.world⟩ ((Registry.baseWith name .alarm).evaluateWithin
        (s.policies.limit - s.world.depth)) env s.policies = _ := halarm
    rw [hanswer] at htripped
    exact not_tripped_base _ ⟨e, s.world⟩ htripped

/-- A session in which no more than four evaluations can be nested. -/
def shallow : Session := .new ⟨.fail, .evaluated, 4, .warn⟩

/-- A block that reads a text and then binds a name. The text calls a name that nothing has. -/
def lateCall : Value :=
  .list [.sym (text "do"), .list [.sym (text "eval"), .str (text "(later x)")],
    .list [.sym (text "def"), .sym (text "x"), .bool true]]

/-- An operation under a name that the text does not call makes no difference to the block, and
neither does one under the name of the block itself. -/
theorem evaluateIn_register_lateCall :
    shallow.unknownCalls 0 lateCall = [text "later"] ∧
    text "twice" ∉ shallow.registry.keys ∧
    (∀ operation, ((shallow.register (text "twice") operation).evaluateIn 0 lateCall).1 =
      .value (.bool true)) ∧
    ∀ operation, ((shallow.register (text "do") operation).evaluateIn 0 lateCall).1 =
      .value (.bool true) := by
  have hcalls : shallow.unknownCalls 0 lateCall = [text "later"] := by decide +kernel
  have hvalue : (shallow.evaluateIn 0 lateCall).1 = .value (.bool true) :=
    Outcome.eq_of_isBool (by decide +kernel)
  have hfree : text "twice" ∉ shallow.registry.keys := by decide
  obtain ⟨hsame, hspecial⟩ := evaluateIn_register shallow rfl 0 lateCall
  refine ⟨hcalls, hfree, fun operation => ?_, fun operation => ?_⟩
  · have hother : text "twice" ∉ shallow.unknownCalls 0 lateCall := by
      rw [hcalls]
      decide
    rw [(hsame _ hfree).mp hother operation, hvalue]
  · rw [show text "do" = SpecialForm.sequence.name from rfl, hspecial .sequence operation, hvalue]

end Session

end Lisplet
