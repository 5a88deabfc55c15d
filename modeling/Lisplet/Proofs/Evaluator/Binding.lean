import Lisplet.Proofs.Evaluator.Delivery
import Lisplet.Proofs.Evaluator.Frame
import Lisplet.Proofs.Store

/-!
# Forms that bind a name

A definition and an assignment evaluate their value first and write one binding behind it. A
definition writes to the environment itself. An assignment writes to the scope that holds the name
when the value is there, which need not be the one that held it before. Where such a form gives no
result, it was turned away before anything was done, or its value gave none and nothing was written
behind it.
-/

namespace Lisplet

/-! ### Evaluations one level deeper -/

variable {p : Policies} {env : ScopeId}

/-- An end without a result is no value. -/
theorem Stop.outcome_ne_value {α : Type} (s : Stop) (a : α) : s.outcome ≠ .value a := by
  cases s <;> simp [Stop.outcome]

/-- An expression that has a value inside of another one has it outside too, and the environments
are left alike. -/
theorem evaluate_of_entered {a v : Value} {w u : World}
    (h : Registry.base.evaluate env a p w.entered = (.value v, u)) :
    ∃ u', Registry.base.evaluate env a p w = (.value v, u') ∧ u'.heap = u.heap := by
  have hroom : ∃ extra, p.limit - w.depth = p.limit - w.entered.depth + extra := by
    refine ⟨p.limit - w.depth - (p.limit - w.entered.depth), ?_⟩
    simp only [World.entered]
    omega
  obtain ⟨extra, hextra⟩ := hroom
  rw [Registry.evaluate] at h
  rw [Registry.evaluate, hextra]
  generalize p.limit - w.entered.depth = room at h
  -- With the same room the count makes no difference, and more room does not either.
  have hmatch : p.Matching p Eq := ⟨rfl, rfl, fun _ => rfl, fun _ => rfl⟩
  have hview : w.entered.SameView w := ⟨rfl, rfl⟩
  obtain ⟨hafter, hends⟩ := Policies.related_beside (hmatch.evaluateWithin env room a hview)
  have hbottom : ∀ e, (Depth.raised p env p.limit p.limit).Simulates (fun _ => True)
      (Registry.base.evaluateWithin 0 env e) (Registry.base.evaluateWithin extra env e) := by
    intro e w w' _
    have hwaived : (Depth.raised p env p.limit p.limit).Waived (.failed (.tooDeep p.limit e)) :=
      ⟨p.limit, e, rfl⟩
    exact .waived hwaived
  have hmore := (Depth.raised_lawful p env p.limit p.limit).evaluateWithin rfl
    (Depth.raised_nests p env p.limit p.limit) hbottom room a (w := w) rfl
  rw [h] at hafter hends
  change (Depth.raised p env p.limit p.limit).Related _
    (Registry.base.evaluateWithin room env a p w)
    (Registry.base.evaluateWithin (room + extra) env a p w) at hmore
  generalize Registry.base.evaluateWithin room env a p w = out at hafter hends hmore
  generalize Registry.base.evaluateWithin (room + extra) env a p w = out' at hmore ⊢
  obtain ⟨v', hv, hv'⟩ : ∃ v', Outcome.value v = .value v' ∧ out.1 = .value v' := by
    rcases hends with hvalue | ⟨s, s', -, hs, -⟩
    · exact hvalue
    · exact absurd hs.symm (Stop.outcome_ne_value s v)
  obtain rfl := Outcome.value.inj hv
  cases hmore with
  | value _ hworlds =>
    obtain rfl := hworlds
    obtain rfl := Outcome.value.inj hv'
    exact ⟨_, rfl, hafter.heap_eq.symm⟩
  | stop hstops => exact absurd hv' (Stop.outcome_ne_value _ _)
  | waived hwaived => exact absurd hv' (Stop.outcome_ne_value _ _)

/-! ### Running a binding form -/

namespace SpecialForm

/-- The forms that bind a name: the definition and the assignment. -/
def Binds (form : SpecialForm) : Prop := form = .define ∨ form = .assign

/-- A form applied to a first argument and to the expression of a value. -/
def binding (form : SpecialForm) (x a : Value) : Value := .list [.sym form.name, x, a]

/-- A binding form is turned away before its value is evaluated: the limit is reached already, its
first argument is no symbol, or it is an assignment to a symbol without a binding. -/
inductive Rejected (form : SpecialForm) (p : Policies) (env : ScopeId) (x : Value) (w : World) :
    Prop
  | tooDeep (limit_le : p.limit ≤ w.depth)
  | notASymbol (ne_sym : ∀ name, x ≠ .sym name)
  | notBound {name : Text} (form_eq : form = .assign) (x_eq : x = .sym name)
    (unbound : w.heap.has env name = false)

/-- The environments behind a binding form whose value is there. -/
def written (form : SpecialForm) (h : Heap) (env : ScopeId) (name : Text) (v : Value) : Heap :=
  match form with
  | .assign => (h.assign? env name v).getD h
  | _ => h.set env name v

variable {form : SpecialForm} {self : Evaluator} {name : Text} {x a v : Value} {w u : World}

/-- A binding form writes behind the value of its second argument, and this is its result. -/
theorem run_of_value (hbinds : form.Binds) (hbound : form = .assign → w.heap.has env name = true)
    (h : self env a p w = (.value v, u)) :
    form.run self env [.sym name, a] p w =
      (.value v, { u with heap := form.written u.heap env name v }) := by
  have hsymbol : symbolOf form [.sym name, a] p w = (.value name, w) := rfl
  have hvalue : valueOf self env [.sym name, a] p w = (.value v, u) := h
  rcases hbinds with rfl | rfl
  · rw [run, runDefine, Evaluation.bind_of_value hsymbol, Evaluation.bind_of_value hvalue]
    rfl
  · rw [run, runAssign, Evaluation.bind_of_value hsymbol, Evaluation.heap_bind,
      if_pos (hbound rfl), Evaluation.bind_of_value hvalue]
    rfl

/-- Where the second argument has no value, a binding form ends as this does and writes nothing. -/
theorem run_of_stop (hbinds : form.Binds) (hbound : form = .assign → w.heap.has env name = true)
    {s : Stop} (h : self env a p w = (s.outcome, u)) :
    form.run self env [.sym name, a] p w = (s.outcome, u) := by
  have hsymbol : symbolOf form [.sym name, a] p w = (.value name, w) := rfl
  have hvalue : valueOf self env [.sym name, a] p w = (s.outcome, u) := h
  rcases hbinds with rfl | rfl
  · rw [run, runDefine, Evaluation.bind_of_value hsymbol, Evaluation.bind_of_stop hvalue]
  · rw [run, runAssign, Evaluation.bind_of_value hsymbol, Evaluation.heap_bind,
      if_pos (hbound rfl), Evaluation.bind_of_stop hvalue]

/-- Without a symbol nothing is evaluated. -/
theorem run_of_ne_sym (hbinds : form.Binds) (hx : ∀ name, x ≠ .sym name) :
    form.run self env [x, a] p w =
      Evaluation.misuse ⟨form, [x, a], .notASymbol x⟩ p w := by
  have hsymbol : symbolOf form [x, a] = .misuse ⟨form, [x, a], .notASymbol x⟩ := by
    cases x with
    | sym name => exact absurd rfl (hx name)
    | _ => rfl
  have hstop := Evaluation.misuse_apply (α := Text) ⟨form, [x, a], .notASymbol x⟩ p w
  rw [← hsymbol] at hstop
  rw [Evaluation.misuse_apply]
  rcases hbinds with rfl | rfl
  · rw [run, runDefine, Evaluation.bind_of_stop hstop]
  · rw [run, runAssign, Evaluation.bind_of_stop hstop]

/-- Without a binding an assignment does not evaluate its value. -/
theorem run_of_unbound (hunbound : w.heap.has env name = false) :
    SpecialForm.assign.run self env [.sym name, a] p w =
      Evaluation.misuse ⟨.assign, [.sym name, a], .notBound name⟩ p w := by
  have hsymbol : symbolOf .assign [.sym name, a] p w = (.value name, w) := rfl
  rw [run, runAssign, Evaluation.bind_of_value hsymbol, Evaluation.heap_bind,
    if_neg (by simp [hunbound])]

end SpecialForm

/-! ### Evaluating a binding form -/

section Evaluating

variable {form : SpecialForm} {name : Text} {x a v : Value} {w u : World}

/-- Whatever is evaluated, only the scopes on the way outwards are written to. -/
theorem framed_of_evaluate {o : Outcome Value} (h : Registry.base.evaluate env a p w = (o, u)) :
    w.heap.Framed env u.heap := by
  have hkeeps := keeps_framed p env w.heap (p.limit - w.depth) a (Heap.Framed.refl env w.heap)
  have hframed := (Invariant.good_of_ends hkeeps).1
  rw [Registry.evaluate] at h
  rwa [h] at hframed

/-- Below the limit a special form runs as one more evaluation. -/
theorem evaluate_form (form : SpecialForm) (args : List Value) (hdepth : w.depth < p.limit) :
    Registry.base.evaluate env (.list (.sym form.name :: args)) p w =
      ((form.run Registry.base.evaluate env args p w.entered).1,
        (form.run Registry.base.evaluate env args p w.entered).2.exited) := by
  have hturn := congrFun (congrFun (congrFun (congrFun Depth.guarded_evaluate env)
    (.list (.sym form.name :: args))) p) w
  have hstep : Registry.base.step Registry.base.evaluate env (.list (.sym form.name :: args)) =
      form.run Registry.base.evaluate env args := by
    cases form <;> rfl
  rw [← hturn, Registry.guarded, if_neg (by omega), hstep, Evaluation.nested_apply]

/-- A binding form that is turned away gives no result and leaves the environments alone. -/
theorem evaluate_of_rejected (hbinds : form.Binds) (h : form.Rejected p env x w) :
    ∃ s : Stop, ∃ w', Registry.base.evaluate env (form.binding x a) p w = (s.outcome, w') ∧
      w'.heap = w.heap := by
  by_cases hlimit : p.limit ≤ w.depth
  · have hroom : p.limit - w.depth = 0 := by omega
    rw [Registry.evaluate, hroom]
    exact ⟨.failed (.tooDeep p.limit (form.binding x a)), w, rfl, rfl⟩
  · have hrun : ∃ e, form.run Registry.base.evaluate env [x, a] p w.entered =
        Evaluation.misuse e p w.entered := by
      cases h with
      | tooDeep hle => exact absurd hle hlimit
      | notASymbol hx => exact ⟨_, SpecialForm.run_of_ne_sym hbinds hx⟩
      | notBound hform hx hunbound =>
        subst hform hx
        exact ⟨_, SpecialForm.run_of_unbound (w := w.entered) hunbound⟩
    obtain ⟨e, hrun⟩ := hrun
    rw [SpecialForm.binding, evaluate_form form _ (by omega), hrun, Evaluation.misuse_apply]
    exact ⟨_, _, rfl, w.entered.heap_noted p.level .warn e.message⟩

/-- A binding form that is not turned away is about a symbol, and its value is evaluated. -/
theorem SpecialForm.exists_symbol_of_not_rejected (h : ¬ form.Rejected p env x w) :
    ∃ name, x = .sym name ∧ w.depth < p.limit ∧
      (form = .assign → w.heap.has env name = true) := by
  have hdepth : w.depth < p.limit := by
    by_contra hlimit
    exact h (.tooDeep (by omega))
  obtain ⟨name, rfl⟩ : ∃ name, x = .sym name := by
    by_contra hx
    exact h (.notASymbol fun name heq => hx ⟨name, heq⟩)
  refine ⟨name, rfl, hdepth, fun hform => ?_⟩
  by_contra hunbound
  exact h (.notBound hform rfl (by simpa using hunbound))

/-- A binding form that is not turned away gives the value of its second argument and writes, or
stops where that argument stops and writes nothing. -/
theorem evaluate_of_not_rejected (hbinds : form.Binds) (h : ¬ form.Rejected p env x w) :
    ∃ name, x = .sym name ∧
      (∀ v u, Registry.base.evaluate env a p w.entered = (.value v, u) →
        (form = .assign → u.heap.has env name = true) ∧
          Registry.base.evaluate env (form.binding x a) p w =
            (.value v, { u with heap := form.written u.heap env name v }.exited)) ∧
      ∀ (s : Stop) u, Registry.base.evaluate env a p w.entered = (s.outcome, u) →
        Registry.base.evaluate env (form.binding x a) p w = (s.outcome, u.exited) := by
  obtain ⟨name, rfl, hdepth, hbound⟩ := SpecialForm.exists_symbol_of_not_rejected h
  refine ⟨name, rfl, fun v u hvalue => ⟨fun hform => ?_, ?_⟩, fun s u hstop => ?_⟩
  · exact (framed_of_evaluate hvalue).has_of_has (hbound hform)
  · rw [SpecialForm.binding, evaluate_form form _ hdepth,
      SpecialForm.run_of_value (w := w.entered) hbinds hbound hvalue]
  · rw [SpecialForm.binding, evaluate_form form _ hdepth,
      SpecialForm.run_of_stop (w := w.entered) hbinds hbound hstop]

/-- A symbol with a binding has the value that it is bound to. -/
theorem evaluate_symbol (hdepth : w.depth < p.limit) (hlookup : w.heap.lookup? env name = some v) :
    Registry.base.evaluate env (.sym name) p w = (.value v, w.entered.exited) := by
  have hroom : p.limit - w.depth = p.limit - w.depth - 1 + 1 := by omega
  have hvalue : Registry.valueOfSymbol env name p w.entered = (.value v, w.entered) := by
    have hentered : w.entered.heap.lookup? env name = some v := hlookup
    rw [Registry.valueOfSymbol, Evaluation.heap_bind, hentered]
    simp only [Value.clone_eq]
    rfl
  rw [Registry.evaluate, hroom, Registry.evaluateWithin_succ_apply, Registry.step, hvalue]

/-- The binding that is written behind the value of a binding form, and what the name has then. -/
theorem SpecialForm.rebound_written (hbinds : form.Binds) {h : Heap} (henv : env < h.scopes.size)
    (hbound : form = .assign → h.has env name = true) (v : Value) :
    ∃ s, (form = .define → s = env) ∧ (form = .assign → h.FirstHolding env name s) ∧
      h.Rebound (form.written h env name v) s name v ∧
      (form.written h env name v).lookup? env name = some v := by
  rcases hbinds with rfl | rfl
  · refine ⟨env, fun _ => rfl, fun hform => (by cases hform), .write henv name v, ?_⟩
    have hset : SpecialForm.define.written h env name v = h.set env name v := rfl
    rw [hset, Heap.lookup?_set henv, if_pos rfl, Value.clone_eq]
  · have hlookup := h.lookup?_assign env name v name
    rw [if_pos ⟨rfl, hbound rfl⟩, Value.clone_eq] at hlookup
    obtain ⟨h', hassign⟩ : ∃ h', h.assign? env name v = some h' := by
      rw [← Option.isSome_iff_exists, Heap.isSome_assign?]
      exact hbound rfl
    obtain ⟨s, hfirst, hrebound, -⟩ := Heap.Rebound.assign hassign
    refine ⟨s, fun hform => (by cases hform), fun _ => hfirst, ?_, hlookup⟩
    rwa [written, hassign, Option.getD_some]

end Evaluating

/-! ### One write behind the value -/

/-- A binding form with the result `v` has turned the world `w` into `w'`: its second argument led
to the world `u`, and behind it one binding was written, that of a name in the scope `s`. -/
structure BoundOnce (p : Policies) (env : ScopeId) (x a : Value) (w : World) (v : Value)
    (w' u : World) (name : Text) (s : ScopeId) : Prop where
  /-- The first argument is the symbol with this name. -/
  symbol : x = .sym name
  /-- The result is the value of the second argument, which is evaluated inside of the form. -/
  evaluated : Registry.base.evaluate env a p w.entered = (.value v, u)
  /-- On its own the second argument has the same value and leaves the same environments. -/
  alone : ∃ u', Registry.base.evaluate env a p w = (.value v, u') ∧ u'.heap = u.heap
  /-- One binding is written, and nothing else changes. -/
  rebound : u.heap.Rebound w'.heap s name v
  /-- The symbol has the value then. -/
  seen : ∃ w'', Registry.base.evaluate env x p w' = (.value v, w'') ∧ w''.heap = w'.heap

/-- A binding form with a result has written one binding. A definition has written it to the
environment itself, and an assignment to the scope that holds the name when the value is there. -/
theorem boundOnce_of_value {form : SpecialForm} (hbinds : form.Binds) {x a v : Value}
    {w w' : World} (henv : env < w.heap.scopes.size)
    (h : Registry.base.evaluate env (form.binding x a) p w = (.value v, w')) :
    ∃ name u s, (form = .define → s = env) ∧ (form = .assign → u.heap.FirstHolding env name s) ∧
      BoundOnce p env x a w v w' u name s := by
  have hresults : ∀ {s : Stop} {u : World},
      Registry.base.evaluate env (form.binding x a) p w ≠ (s.outcome, u) := by
    intro s u hstop
    have hends : s.outcome = .value v := congrArg Prod.fst (hstop.symm.trans h)
    exact s.outcome_ne_value v hends
  have hnot : ¬ form.Rejected p env x w := by
    intro hrejected
    obtain ⟨s, u, hstop, -⟩ := evaluate_of_rejected (a := a) hbinds hrejected
    exact hresults hstop
  obtain ⟨name, rfl, hvalue, hstop⟩ := evaluate_of_not_rejected (a := a) hbinds hnot
  obtain ⟨-, -, hdepth, -⟩ := SpecialForm.exists_symbol_of_not_rejected hnot
  obtain ⟨u, hinside⟩ : ∃ u, Registry.base.evaluate env a p w.entered = (.value v, u) := by
    rcases Depth.value_or_stop p env a w.entered with ⟨v', u, hinside⟩ | ⟨s, u, hinside⟩
    · have hsame : Outcome.value v' = .value v :=
        congrArg Prod.fst ((hvalue v' u hinside).2.symm.trans h)
      exact ⟨u, by rw [hinside, hsame]⟩
    · exact absurd (hstop s u hinside) hresults
  obtain ⟨hbound, hresult⟩ := hvalue v u hinside
  have hsize : u.heap.scopes.size = w.heap.scopes.size := (framed_of_evaluate hinside).size_eq
  obtain ⟨s, hdefine, hassign, hrebound, hlookup⟩ :=
    SpecialForm.rebound_written hbinds (hsize ▸ henv) hbound v
  have hworld : w' = { u with heap := form.written u.heap env name v }.exited :=
    congrArg Prod.snd (h.symm.trans hresult)
  have hcount : w'.depth = w.depth := by
    have hcounted := (Depth.counted_evaluate p env (form.binding (.sym name) a) w).1
    rwa [h] at hcounted
  have hheap : w'.heap = form.written u.heap env name v := by rw [hworld]; rfl
  rw [← hheap] at hrebound hlookup
  have hseen : Registry.base.evaluate env (.sym name) p w' = (.value v, w'.entered.exited) :=
    evaluate_symbol (by rwa [hcount]) hlookup
  exact ⟨name, u, s, hdefine, hassign,
    ⟨rfl, hinside, evaluate_of_entered hinside, hrebound, w'.entered.exited, hseen, rfl⟩⟩

/-- Binding forms write once, behind their value. A definition that has a result has written one
binding, that of the symbol in the environment itself, to the environments that the value left. An
assignment has written one binding too, that of the symbol in the first scope on the way outwards
that holds it when the value is there. In both cases the symbol has the result as its value then. A
form that is turned away gives no result and leaves the environments alone. Any other form has the
result that its value has, or ends as its value ends and leaves the environments that this left. -/
theorem binding_writes_once (p : Policies) {env : ScopeId} {w : World}
    (henv : env < w.heap.scopes.size) (x a : Value) :
    (∀ v w', Registry.base.evaluate env (SpecialForm.define.binding x a) p w = (.value v, w') →
      ∃ name u, BoundOnce p env x a w v w' u name env) ∧
    (∀ v w', Registry.base.evaluate env (SpecialForm.assign.binding x a) p w = (.value v, w') →
      ∃ name u s, u.heap.FirstHolding env name s ∧ BoundOnce p env x a w v w' u name s) ∧
    ∀ form : SpecialForm, form.Binds →
      (form.Rejected p env x w →
        ∃ s : Stop, ∃ w', Registry.base.evaluate env (form.binding x a) p w = (s.outcome, w') ∧
          w'.heap = w.heap) ∧
      (¬ form.Rejected p env x w →
        (∀ v u, Registry.base.evaluate env a p w.entered = (.value v, u) →
          ∃ w', Registry.base.evaluate env (form.binding x a) p w = (.value v, w')) ∧
        ∀ (s : Stop) u, Registry.base.evaluate env a p w.entered = (s.outcome, u) →
          ∃ w', Registry.base.evaluate env (form.binding x a) p w = (s.outcome, w') ∧
            w'.heap = u.heap) := by
  refine ⟨fun v w' hvalue => ?_, fun v w' hvalue => ?_, fun form hbinds => ⟨?_, ?_⟩⟩
  · obtain ⟨name, u, s, hscope, -, hbound⟩ := boundOnce_of_value (.inl rfl) henv hvalue
    obtain rfl := hscope rfl
    exact ⟨name, u, hbound⟩
  · obtain ⟨name, u, s, -, hfirst, hbound⟩ := boundOnce_of_value (.inr rfl) henv hvalue
    exact ⟨name, u, s, hfirst rfl, hbound⟩
  · exact evaluate_of_rejected hbinds
  · intro hnot
    obtain ⟨name, -, hvalue, hstop⟩ := evaluate_of_not_rejected (a := a) hbinds hnot
    exact ⟨fun v u hinside => ⟨_, (hvalue v u hinside).2⟩,
      fun s u hinside => ⟨_, hstop s u hinside, rfl⟩⟩

/-- A root that binds a name, and a scope in it. -/
def rootAndInner : World :=
  ⟨(Heap.empty.newRoot.2.push 0).2.set 0 (text "x") (.bool true), [], 0, 0⟩

/-- An expression that defines the name and has another value. -/
def definingValue : Value :=
  .list [.sym (text "do"), SpecialForm.define.binding (.sym (text "x")) (.num 1), .bool false]

/-- In the inner scope, the value of an assignment defines the name that only the root held. The
assignment then writes to the inner scope, and the root is left as it was. -/
theorem binding_writes_once_shadowed :
    1 < rootAndInner.heap.scopes.size ∧ rootAndInner.heap.resolve? 1 (text "x") = some 0 ∧
      ∃ w', Registry.base.evaluate 1 (SpecialForm.assign.binding (.sym (text "x")) definingValue)
          (.usual .warn) rootAndInner = (.value (.bool false), w') ∧
        (∃ (name : Text) (u : World) (s : ScopeId), u.heap.FirstHolding 1 name s ∧
          BoundOnce (.usual .warn) 1 (.sym (text "x")) definingValue rootAndInner (.bool false) w' u
            name s) ∧
        w'.heap.lookup? 1 (text "x") = some (.bool false) ∧
        w'.heap.lookup? 0 (text "x") = some (.bool true) := by
  have hsize : 1 < rootAndInner.heap.scopes.size := by decide
  have hvalue : (Registry.base.evaluate 1 (SpecialForm.assign.binding (.sym (text "x"))
      definingValue) (.usual .warn) rootAndInner).1 = .value (.bool false) :=
    Outcome.eq_of_isBool (by decide +kernel)
  have hresult : Registry.base.evaluate 1 (SpecialForm.assign.binding (.sym (text "x"))
      definingValue) (.usual .warn) rootAndInner = (.value (.bool false), _) :=
    Prod.ext hvalue rfl
  have hlookup : ∀ {o : Option Value} {b : Bool}, o.any (·.equals (.bool b)) = true →
      o = some (.bool b) := by
    rintro (_ | v) b hany
    · cases hany
    · rw [Value.eq_of_equals_bool hany]
  refine ⟨hsize, by decide +kernel, _, hresult, ?_, hlookup (by decide +kernel),
    hlookup (by decide +kernel)⟩
  exact (binding_writes_once (.usual .warn) hsize _ _).2.1 _ _ hresult

end Lisplet
