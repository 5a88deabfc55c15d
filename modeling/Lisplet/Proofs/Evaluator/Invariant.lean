import Lisplet.Proofs.Evaluator.Simulation

/-!
# What evaluation keeps

A property of worlds is kept by every evaluation, however it ends, if it is kept by the few things
that the evaluator does to a world. An evaluation is compared with itself to see this, so that the
special forms and operations do not have to be gone through again.
-/

namespace Lisplet

/-- A property of worlds that an evaluation in an environment is to keep. -/
structure Invariant (p : Policies) (env : ScopeId) where
  /-- The worlds in which an evaluation begins, goes on, and gives a result. -/
  Good : World → Prop
  /-- The results. -/
  Result : Value → Prop
  /-- The ends without a result. -/
  Stopped : Stop → World → Prop

namespace Invariant

variable {p : Policies} {env : ScopeId} (I : Invariant p env) {α : Type}

/-- The end of an evaluation that keeps the property. -/
inductive Ends (Q : α → Prop) : Outcome α × World → Prop
  | value {a : α} {w : World} (result : Q a) (good : I.Good w) : Ends Q (.value a, w)
  | stop {s : Stop} {w : World} (stopped : I.Stopped s w) : Ends Q (s.outcome, w)

/-- An evaluation that begins in a good world keeps the property. -/
def Keeps (Q : α → Prop) (x : Evaluation α) : Prop := ∀ ⦃w : World⦄, I.Good w → I.Ends Q (x p w)

/-- The property is kept by everything that the evaluator does to a world. -/
structure Lawful : Prop where
  /-- What evaluates to itself can be a result. -/
  result_of_isInert : ∀ {v : Value}, v.isInert = true → I.Result v
  /-- The value of a name can be a result. -/
  result_of_lookup? : ∀ {w : World} {name : Text} {v : Value}, I.Good w →
    w.heap.lookup? env name = some v → I.Result v.clone
  /-- A message other than a warning is logged. -/
  noted : ∀ {w : World} {level : Log.Level} (message : Text), I.Good w → level ≠ .warn →
    I.Good (w.noted p.level level message)
  /-- A form is misused. -/
  misused : ∀ {w : World} (e : FormError), I.Good w →
    I.Stopped (p.fatal.stop (.misuse e)) (w.noted p.level .warn e.message)
  /-- A name is bound. -/
  defined : ∀ {w : World} (name : Text) {v : Value}, I.Good w → I.Result v →
    I.Good { w with heap := w.heap.set env name v }
  /-- A binding is replaced. -/
  assigned : ∀ {w : World} (name : Text) {v : Value}, I.Good w → I.Result v →
    I.Good { w with heap := (w.heap.assign? env name v).getD w.heap }

/-- The property is kept when an evaluation is counted, when it is done, and when there is no room
for it. -/
structure Nests : Prop where
  /-- An evaluation begins. -/
  entered : ∀ {w : World}, I.Good w → I.Good w.entered
  /-- An evaluation ends. -/
  exited : ∀ {w : World}, I.Good w → I.Good w.exited
  /-- An evaluation ends without a result. -/
  stopped : ∀ {s : Stop} {w : World}, I.Stopped s w → I.Stopped s w.exited
  /-- There is no room for an evaluation. -/
  tooDeep : ∀ {w : World} (e : Value), I.Good w → I.Stopped (.failed (.tooDeep p.limit e)) w

/-- An evaluation beside itself. -/
def diagonal : Simulation p p env env where
  Worlds w w' := w = w' ∧ I.Good w
  Result := I.Result
  Stops s w s' w' := s = s' ∧ w = w' ∧ I.Stopped s w
  Waived _ := False

variable {I}

/-- Ends that are related by the diagonal are one end that keeps the property. -/
theorem Ends.of_related {Q : α → Prop} {out out' : Outcome α × World}
    (h : I.diagonal.Related Q out out') : I.Ends Q out ∧ out = out' := by
  cases h with
  | value hresult hworlds =>
    obtain ⟨rfl, hgood⟩ := hworlds
    exact ⟨.value hresult hgood, rfl⟩
  | stop hstops =>
    obtain ⟨rfl, rfl, hstopped⟩ := hstops
    exact ⟨.stop hstopped, rfl⟩
  | waived hwaived => exact hwaived.elim

/-- Two evaluations go side by side on the diagonal if they keep the property and do the same. -/
theorem simulates_diagonal_iff {Q : α → Prop} {x y : Evaluation α} :
    I.diagonal.Simulates Q x y ↔ I.Keeps Q x ∧ ∀ w, I.Good w → x p w = y p w := by
  constructor
  · intro h
    have hboth : ∀ ⦃w⦄, I.Good w → I.Ends Q (x p w) ∧ x p w = y p w := fun w hgood =>
      Ends.of_related (h ⟨rfl, hgood⟩)
    exact ⟨fun w hgood => (hboth hgood).1, fun w hgood => (hboth hgood).2⟩
  · rintro ⟨hkeeps, heq⟩ w w' ⟨rfl, hgood⟩
    rw [← heq w hgood]
    have hends := hkeeps hgood
    generalize x p w = out at hends
    cases hends with
    | value hresult hgood => exact .value hresult ⟨rfl, hgood⟩
    | stop hstopped => exact .stop ⟨rfl, rfl, hstopped⟩

/-- To keep the property is to simulate oneself. -/
theorem keeps_iff {Q : α → Prop} {x : Evaluation α} :
    I.Keeps Q x ↔ I.diagonal.Simulates Q x x := by
  rw [simulates_diagonal_iff]
  exact ⟨fun h => ⟨h, fun _ _ => rfl⟩, fun h => h.1⟩

/-- The laws of a property are those of its diagonal. -/
theorem Lawful.diagonal (law : I.Lawful) : I.diagonal.Lawful where
  result_of_isInert := law.result_of_isInert
  lookup?_eq := by
    rintro w w' ⟨rfl, -⟩ name
    rfl
  result_of_lookup? := fun hworlds hlookup => law.result_of_lookup? hworlds.2 hlookup
  hasLocal_eq := by
    rintro w w' ⟨rfl, -⟩ name
    rfl
  noted := by
    rintro w w' level message ⟨rfl, hgood⟩ hlevel
    exact ⟨rfl, law.noted message hgood hlevel⟩
  misused := by
    rintro w w' e ⟨rfl, hgood⟩
    exact ⟨rfl, rfl, law.misused e hgood⟩
  defined := by
    rintro w w' name v ⟨rfl, hgood⟩ hv
    exact ⟨rfl, law.defined name hgood hv⟩
  assigned := by
    rintro w w' name v ⟨rfl, hgood⟩ hv
    exact ⟨rfl, law.assigned name hgood hv⟩

/-- The same for counting evaluations. -/
theorem Nests.diagonal (nests : I.Nests) : I.diagonal.Nests where
  entered := by
    rintro w w' ⟨rfl, hgood⟩
    exact ⟨rfl, nests.entered hgood⟩
  exited := by
    rintro w w' ⟨rfl, hgood⟩
    exact ⟨rfl, nests.exited hgood⟩
  stopped := by
    rintro s s' w w' ⟨rfl, rfl, hstopped⟩
    exact ⟨rfl, rfl, nests.stopped hstopped⟩

/-- One step keeps what the evaluations inside it keep. -/
theorem Lawful.step (law : I.Lawful) {self : Evaluator}
    (hself : ∀ e, I.Keeps I.Result (self env e)) (e : Value) :
    I.Keeps I.Result (Registry.base.step self env e) :=
  keeps_iff.mpr (law.diagonal.step rfl (fun e => keeps_iff.mp (hself e)) e)

/-- A call keeps what the evaluator keeps. -/
theorem Lawful.call (law : I.Lawful) {self : Evaluator}
    (hself : ∀ e, I.Keeps I.Result (self env e))
    (hunread : ∀ {w : World} {e : ReadError}, I.Good w →
      I.Stopped (.failed (.within (text "parse failed") (.unreadable e))) w)
    (c : Call) : I.Keeps I.Result (c.run self env) := by
  refine keeps_iff.mpr (law.diagonal.call (fun e => keeps_iff.mp (hself e)) ?_ c)
  rintro w w' e ⟨rfl, hgood⟩
  exact ⟨rfl, rfl, hunread hgood⟩

/-- The evaluator keeps what each thing it does to a world keeps. -/
theorem Lawful.evaluateWithin (law : I.Lawful) (nests : I.Nests) (room : Nat) (e : Value) :
    I.Keeps I.Result (Registry.base.evaluateWithin room env e) := by
  have hbottom : ∀ e, I.diagonal.Simulates I.Result (Registry.base.evaluateWithin 0 env e)
      (Registry.base.evaluateWithin 0 env e) := by
    rintro e w w' ⟨rfl, hgood⟩
    have hstops : I.diagonal.Stops (.failed (.tooDeep p.limit e)) w
        (.failed (.tooDeep p.limit e)) w := ⟨rfl, rfl, nests.tooDeep e hgood⟩
    exact .stop hstops
  exact keeps_iff.mpr (law.diagonal.evaluateWithin rfl nests.diagonal hbottom room e)

/-- A lawful property is kept by every evaluation. -/
theorem Lawful.evaluate (law : I.Lawful) (nests : I.Nests) (e : Value) :
    I.Keeps I.Result (Registry.base.evaluate env e) :=
  fun w hgood => law.evaluateWithin nests (p.limit - w.depth) e hgood

/-! ### Properties that hold however an evaluation ends -/

/-- A property that is kept whether there is a result or not. -/
def always (p : Policies) (env : ScopeId) (Good : World → Prop) (Result : Value → Prop) :
    Invariant p env :=
  ⟨Good, Result, fun _ => Good⟩

/-- However an evaluation ends, the property holds of the world and of a result. -/
theorem good_of_ends {Good : World → Prop} {Result : Value → Prop} {Q : α → Prop}
    {out : Outcome α × World} (h : (always p env Good Result).Ends Q out) :
    Good out.2 ∧ ∀ a, out.1 = .value a → Q a := by
  cases h with
  | value hresult hgood =>
    refine ⟨hgood, fun a ha => ?_⟩
    obtain rfl := Outcome.value.inj ha
    exact hresult
  | @stop s w hstopped =>
    refine ⟨hstopped, fun a ha => ?_⟩
    cases s <;> cases ha

/-! ### Properties of the environments -/

/-- A property of the environments alone. -/
def onHeap (p : Policies) (env : ScopeId) (Good : Heap → Prop) (Result : Value → Prop) :
    Invariant p env :=
  always p env (fun w => Good w.heap) Result

variable {Good : Heap → Prop} {Result : Value → Prop}

/-- For a property of the environments only reading and writing bindings matters. -/
theorem onHeap_lawful (hinert : ∀ {v : Value}, v.isInert = true → Result v)
    (hlookup : ∀ {h : Heap} {name : Text} {v : Value}, Good h → h.lookup? env name = some v →
      Result v.clone)
    (hset : ∀ {h : Heap} (name : Text) {v : Value}, Good h → Result v → Good (h.set env name v))
    (hassign : ∀ {h : Heap} (name : Text) {v : Value}, Good h → Result v →
      Good ((h.assign? env name v).getD h)) :
    (onHeap p env Good Result).Lawful where
  result_of_isInert := hinert
  result_of_lookup? := hlookup
  noted message hgood _ := by simpa [onHeap, always] using hgood
  misused e hgood := by simpa [onHeap, always] using hgood
  defined name _ hgood hv := hset name hgood hv
  assigned name _ hgood hv := hassign name hgood hv

/-- Counting evaluations does not touch the environments. -/
theorem onHeap_nests : (onHeap p env Good Result).Nests where
  entered hgood := hgood
  exited hgood := hgood
  stopped hstopped := hstopped
  tooDeep _ hgood := hgood

end Invariant

end Lisplet
