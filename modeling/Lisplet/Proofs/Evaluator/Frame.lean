import Lisplet.Proofs.Evaluator.Invariant

/-!
# What evaluation leaves alone

An evaluation in an environment makes no scopes and does not change how they are nested. It writes
to the scopes on the way outwards from the environment only. The names that the scopes around the
environment hold stay the same, and the environment itself loses none. Therefore a name that was
bound before the value of an assignment is evaluated is still bound behind it.
-/

namespace Lisplet

namespace Heap

/-- A heap and what an evaluation in an environment may make of it. -/
structure Framed (e : ScopeId) (h h' : Heap) : Prop where
  /-- There are as many scopes as before. -/
  size_eq : h'.scopes.size = h.scopes.size
  /-- The scopes are nested as before. -/
  outer?_eq : ∀ s, h'.outer? s = h.outer? s
  /-- Scopes that are not on the way outwards are untouched. -/
  scope?_eq : ∀ s, s ∉ h.chain e → h'.scope? s = h.scope? s
  /-- The scopes around the environment hold the same names. -/
  holds_eq : ∀ s ∈ (h.chain e).tail, ∀ key, h'.holds key s = h.holds key s
  /-- The environment holds the names that it held. -/
  holds_of_holds : ∀ key, h.holds key e = true → h'.holds key e = true

variable {h h' h'' : Heap} {e : ScopeId}

/-- Nothing need be done. -/
theorem Framed.refl (e : ScopeId) (h : Heap) : Framed e h h :=
  ⟨rfl, fun _ => rfl, fun _ _ => rfl, fun _ _ _ => rfl, fun _ hkey => hkey⟩

/-- The way outwards stays the same. -/
theorem Framed.chain_eq (hframed : Framed e h h') : h'.chain e = h.chain e :=
  chain_congr hframed.outer?_eq e

/-- One thing may be done after the other. -/
theorem Framed.trans (hfirst : Framed e h h') (hsecond : Framed e h' h'') : Framed e h h'' where
  size_eq := hsecond.size_eq.trans hfirst.size_eq
  outer?_eq s := (hsecond.outer?_eq s).trans (hfirst.outer?_eq s)
  scope?_eq s hs := by
    have hs' : s ∉ h'.chain e := by rwa [hfirst.chain_eq]
    rw [hsecond.scope?_eq s hs', hfirst.scope?_eq s hs]
  holds_eq s hs key := by
    have hs' : s ∈ (h'.chain e).tail := by rwa [hfirst.chain_eq]
    rw [hsecond.holds_eq s hs' key, hfirst.holds_eq s hs key]
  holds_of_holds key hkey := hsecond.holds_of_holds key (hfirst.holds_of_holds key hkey)

/-- A write on the way outwards, to the environment or to a name that is bound there already. -/
theorem Framed.write {s : ScopeId} {key : Text} (hs : s ∈ h.chain e)
    (hkey : s = e ∨ h.holds key s = true) (value : Value) :
    Framed e h (h.write s key value) where
  size_eq := h.size_write s key value
  outer?_eq t := h.outer?_write s t key value
  scope?_eq t ht := by
    have hne : s ≠ t := by
      rintro rfl
      exact ht hs
    rw [scope?_write, if_neg hne]
  holds_eq t ht key' := by
    rw [holds_write]
    by_cases hwritten : s = t ∧ key = key' ∧ s < h.scopes.size
    · obtain ⟨rfl, rfl, -⟩ := hwritten
      have hne : s ≠ e := Nat.ne_of_lt (lt_of_mem_tail_chain ht)
      rw [hkey.resolve_left hne, Bool.or_true]
    · rw [decide_eq_false hwritten, Bool.false_or]
  holds_of_holds key' hheld := by rw [holds_write, hheld, Bool.or_true]

/-- The way outwards begins with the environment itself. -/
theorem self_mem_chain (h : Heap) (e : ScopeId) : e ∈ h.chain e := by
  obtain ⟨outwards, hchain, -⟩ := h.chain_eq_cons e
  rw [hchain]
  exact List.mem_cons_self ..

/-- A name may be bound. -/
theorem Framed.set (h : Heap) (e : ScopeId) (name : Text) (value : Value) :
    Framed e h (h.set e name value) :=
  .write (h.self_mem_chain e) (Or.inl rfl) value.clone

/-- A binding may be replaced. -/
theorem Framed.assign (h : Heap) (e : ScopeId) (name : Text) (value : Value) :
    Framed e h ((h.assign? e name value).getD h) := by
  rw [assign?]
  cases hresolve : h.resolve? e name with
  | none => exact .refl e h
  | some s =>
    have hs : s ∈ h.chain e := List.mem_of_find?_eq_some hresolve
    have hheld : h.holds name.nfc s = true := List.find?_some hresolve
    exact .write hs (Or.inr hheld) value.clone

/-- A name that is bound stays bound. -/
theorem Framed.has_of_has (hframed : Framed e h h') {name : Text} (hname : h.has e name = true) :
    h'.has e name = true := by
  obtain ⟨outwards, hchain, -⟩ := h.chain_eq_cons e
  rw [has_eq_any, List.any_eq_true] at hname ⊢
  obtain ⟨s, hs, hheld⟩ := hname
  rw [hframed.chain_eq]
  refine ⟨s, hs, ?_⟩
  rw [hchain, List.mem_cons] at hs
  rcases hs with rfl | hs
  · exact hframed.holds_of_holds _ hheld
  · rwa [hframed.holds_eq s (by rwa [hchain])]

end Heap

/-! ### Evaluations -/

/-- The frame as a property that evaluations keep. -/
def framed (p : Policies) (env : ScopeId) (h : Heap) : Invariant p env :=
  .onHeap p env (h.Framed env) fun _ => True

variable (p : Policies) (env : ScopeId)

/-- An evaluation only binds names and replaces bindings. -/
theorem framed_lawful (h : Heap) : (framed p env h).Lawful :=
  Invariant.onHeap_lawful (fun _ => trivial) (fun _ _ => trivial)
    (fun _ _ hgood _ => hgood.trans (.set _ _ _ _))
    (fun _ _ hgood _ => hgood.trans (.assign _ _ _ _))

/-- Evaluations stay within the frame, with however much room. -/
theorem keeps_framed (h : Heap) (room : Nat) (e : Value) :
    (framed p env h).Keeps (fun _ => True) (Registry.base.evaluateWithin room env e) :=
  (framed_lawful p env h).evaluateWithin Invariant.onHeap_nests room e

/-- The value of a binding form is evaluated within the frame. -/
theorem framed_valueOf (room : Nat) (args : List Value) (w : World) :
    w.heap.Framed env
      (SpecialForm.valueOf (Registry.base.evaluateWithin room) env args p w).2.heap := by
  have hargs : ∀ a ∈ args, (framed p env w.heap).diagonal.Simulates (fun _ => True)
      (Registry.base.evaluateWithin room env a) (Registry.base.evaluateWithin room env a) :=
    fun a _ => Invariant.keeps_iff.mp (keeps_framed p env w.heap room a)
  have hvalue := Invariant.keeps_iff.mpr ((framed_lawful p env w.heap).diagonal.valueOf hargs)
  exact (Invariant.good_of_ends (hvalue (Heap.Framed.refl env w.heap))).1

/-- Evaluation stays within its frame, however it ends. In particular, where a name is bound before
the value of an assignment is evaluated, the assignment finds a binding to replace. -/
theorem framed_evaluate (e : Value) (w : World) :
    w.heap.Framed env (Registry.base.evaluate env e p w).2.heap ∧
      ∀ (room : Nat) (args : List Value) (name : Text) (v : Value) (u u' : World),
        u.heap.has env name = true →
        SpecialForm.valueOf (Registry.base.evaluateWithin room) env args p u = (.value v, u') →
        (u'.heap.assign? env name v).isSome = true := by
  constructor
  · have hkeeps := keeps_framed p env w.heap (p.limit - w.depth) e
    exact (Invariant.good_of_ends (hkeeps (Heap.Framed.refl env w.heap))).1
  · intro room args name v u u' hname hvalue
    have hframed := framed_valueOf p env room args u
    rw [hvalue] at hframed
    rw [Heap.isSome_assign?]
    exact hframed.has_of_has hname

end Lisplet
