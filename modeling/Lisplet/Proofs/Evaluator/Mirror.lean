import Lisplet.Proofs.Evaluator.Observation
import Mathlib.Data.List.Forall2

/-!
# Evaluations in copies of some environments

The number that a scope gets depends on how many scopes there are, so two runs of one program can
have their environments under different numbers. What matters is that the environments of the one
are copies of those of the other: the same bindings, nested in the same way. An evaluation has the
same outcome in an environment and in its copy, and copies they stay.
-/

namespace Lisplet

namespace Heap

/-- The pairs each consist of a scope and its copy in another heap. -/
structure Mirrors (pairs : List (ScopeId × ScopeId)) (h h' : Heap) : Prop where
  /-- There are the scopes. -/
  lt_size : ∀ {e e'}, (e, e') ∈ pairs → e < h.scopes.size ∧ e' < h'.scopes.size
  /-- A scope has one copy and is the copy of one. -/
  eq_iff : ∀ {e e' s s'}, (e, e') ∈ pairs → (s, s') ∈ pairs → (e = s ↔ e' = s')
  /-- A copy holds the same bindings. -/
  bindings_eq : ∀ {e e'}, (e, e') ∈ pairs → h'.bindings e' = h.bindings e
  /-- A copy is nested in a copy. -/
  outer?_rel : ∀ {e e'}, (e, e') ∈ pairs →
    Option.Rel (fun o o' => (o, o') ∈ pairs ∧ o < e ∧ o' < e') (h.outer? e) (h'.outer? e')

namespace Mirrors

variable {pairs : List (ScopeId × ScopeId)} {h h' : Heap} {e e' : ScopeId}

/-- The ways outwards go through copies. -/
theorem chain (hmirrors : h.Mirrors pairs h') (he : (e, e') ∈ pairs) :
    List.Forall₂ (fun s s' => (s, s') ∈ pairs) (h.chain e) (h'.chain e') := by
  induction e using Nat.strongRecOn generalizing e' with
  | ind e ih =>
    have houter := hmirrors.outer?_rel he
    rw [Heap.chain, Heap.chain.eq_def h']
    generalize h.outer? e = outer at houter
    generalize h'.outer? e' = outer' at houter
    cases houter with
    | none => exact .cons he .nil
    | some houter =>
      obtain ⟨ho, hlt, hlt'⟩ := houter
      simp only [if_pos hlt, if_pos hlt']
      exact .cons he (ih _ hlt ho)

/-- A name is bound in a scope and in its copy, or in neither. -/
theorem resolve? (hmirrors : h.Mirrors pairs h') (he : (e, e') ∈ pairs) (name : Text) :
    Option.Rel (fun s s' => (s, s') ∈ pairs) (h.resolve? e name) (h'.resolve? e' name) := by
  have hchain := hmirrors.chain he
  rw [Heap.resolve?, Heap.resolve?]
  generalize h.chain e = outwards at hchain
  generalize h'.chain e' = outwards' at hchain
  induction hchain with
  | nil => exact .none
  | @cons s s' _ _ hs _ ih =>
    have hholds : h'.holds name.nfc s' = h.holds name.nfc s := by
      rw [holds, holds, hmirrors.bindings_eq hs]
    rw [List.find?_cons, List.find?_cons, hholds]
    cases h.holds name.nfc s with
    | true => exact .some hs
    | false => exact ih

/-- A scope and its copy give the same answers. -/
theorem alike (hmirrors : h.Mirrors pairs h') (he : (e, e') ∈ pairs) : h.Alike e h' e' where
  lookup?_eq name := by
    have hresolve := hmirrors.resolve? he name
    rw [lookup?, lookup?]
    generalize h.resolve? e name = found at hresolve
    generalize h'.resolve? e' name = found' at hresolve
    cases hresolve with
    | none => rfl
    | some hs => simp only [Option.bind_some, hmirrors.bindings_eq hs]
  hasLocal_eq name := by rw [hasLocal, hasLocal, holds, holds, hmirrors.bindings_eq he]

/-- The same is written to a scope and to its copy. -/
theorem write (hmirrors : h.Mirrors pairs h') (he : (e, e') ∈ pairs) (key : Text) (value : Value) :
    (h.write e key value).Mirrors pairs (h'.write e' key value) where
  lt_size hs := by simpa using hmirrors.lt_size hs
  eq_iff := hmirrors.eq_iff
  bindings_eq {s s'} hs := by
    have hlt := hmirrors.lt_size he
    have hiff := hmirrors.eq_iff he hs
    rw [bindings_write, bindings_write, hmirrors.bindings_eq hs]
    simp only [hiff, hlt.1, hlt.2, and_true]
  outer?_rel hs := by simpa using hmirrors.outer?_rel hs

/-- Binding a name in a scope and in its copy keeps them copies. -/
theorem set (hmirrors : h.Mirrors pairs h') (he : (e, e') ∈ pairs) (name : Text) (value : Value) :
    (h.set e name value).Mirrors pairs (h'.set e' name value) :=
  hmirrors.write he name.nfc value.clone

/-- So does replacing a binding. -/
theorem assign (hmirrors : h.Mirrors pairs h') (he : (e, e') ∈ pairs) (name : Text)
    (value : Value) :
    ((h.assign? e name value).getD h).Mirrors pairs ((h'.assign? e' name value).getD h') := by
  have hresolve := hmirrors.resolve? he name
  rw [assign?, assign?]
  generalize h.resolve? e name = found at hresolve
  generalize h'.resolve? e' name = found' at hresolve
  cases hresolve with
  | none => exact hmirrors
  | some hs => exact hmirrors.write hs name.nfc value.clone

/-- The scopes may lie in another heap that has them unchanged. -/
theorem congr (hmirrors : h.Mirrors pairs h') {g : Heap}
    (hscope : ∀ {e e'}, (e, e') ∈ pairs → g.scope? e = h.scope? e) : g.Mirrors pairs h' where
  lt_size he := by
    refine ⟨?_, (hmirrors.lt_size he).2⟩
    rw [lt_size_iff, hscope he, ← lt_size_iff]
    exact (hmirrors.lt_size he).1
  eq_iff := hmirrors.eq_iff
  bindings_eq he := by rw [hmirrors.bindings_eq he, bindings, bindings, hscope he]
  outer?_rel he := by
    rw [outer?, hscope he]
    exact hmirrors.outer?_rel he

/-- A new scope inside of a scope has a new scope inside of its copy as its copy. -/
theorem push (hmirrors : h.Mirrors pairs h') (he : (e, e') ∈ pairs) :
    (h.push e).2.Mirrors (pairs ++ [((h.push e).1, (h'.push e').1)]) (h'.push e').2 := by
  have hcases : ∀ {s s'}, (s, s') ∈ pairs ++ [((h.push e).1, (h'.push e').1)] →
      (s, s') ∈ pairs ∨ s = (h.push e).1 ∧ s' = (h'.push e').1 := by
    intro s s' hs
    simpa using hs
  have hold : ∀ {s s'}, (s, s') ∈ pairs → s ≠ (h.push e).1 ∧ s' ≠ (h'.push e').1 := fun hs =>
    ⟨Nat.ne_of_lt (hmirrors.lt_size hs).1, Nat.ne_of_lt (hmirrors.lt_size hs).2⟩
  constructor
  · intro s s' hs
    rw [size_push, size_push]
    rcases hcases hs with hs | ⟨rfl, rfl⟩
    · have hlt := hmirrors.lt_size hs
      exact ⟨Nat.lt_succ_of_lt hlt.1, Nat.lt_succ_of_lt hlt.2⟩
    · exact ⟨Nat.lt_succ_self _, Nat.lt_succ_self _⟩
  · intro s s' t t' hs ht
    rcases hcases hs with hs | ⟨rfl, rfl⟩
    · rcases hcases ht with ht | ⟨rfl, rfl⟩
      · exact hmirrors.eq_iff hs ht
      · exact iff_of_false (hold hs).1 (hold hs).2
    · rcases hcases ht with ht | ⟨rfl, rfl⟩
      · exact iff_of_false (hold ht).1.symm (hold ht).2.symm
      · exact iff_of_true rfl rfl
  · intro s s' hs
    rcases hcases hs with hs | ⟨rfl, rfl⟩
    · rw [Heap.push, Heap.push, bindings_new, bindings_new, hmirrors.bindings_eq hs]
    · rw [Heap.push, Heap.push, bindings_new_self, bindings_new_self]
  · intro s s' hs
    rcases hcases hs with hs | ⟨rfl, rfl⟩
    · rw [outer?_push e (hmirrors.lt_size hs).1, outer?_push e' (hmirrors.lt_size hs).2]
      have houter := hmirrors.outer?_rel hs
      generalize h.outer? s = outer at houter
      generalize h'.outer? s' = outer' at houter
      cases houter with
      | none => exact .none
      | some ho => exact .some ⟨List.mem_append_left _ ho.1, ho.2⟩
    · rw [outer?_push_self, outer?_push_self]
      exact .some ⟨List.mem_append_left _ he, hmirrors.lt_size he⟩

end Mirrors

end Heap

/-! ### Evaluations in an environment and its copy -/

namespace Simulation

variable {p q : Policies} {env env' : ScopeId} (S : Simulation p q env env')

/-- A simulation in which the heaps are also related in another way. -/
def alongside (H : Heap → Heap → Prop) : Simulation p q env env' where
  Worlds w w' := S.Worlds w w' ∧ H w.heap w'.heap
  Result := S.Result
  Stops s w s' w' := S.Stops s w s' w' ∧ H w.heap w'.heap
  Waived := S.Waived

variable {S} {H : Heap → Heap → Prop}

/-- Of the other relation only the writing of bindings is asked. -/
theorem Lawful.alongside (law : S.Lawful)
    (hset : ∀ {h h'} name v, H h h' → H (h.set env name v) (h'.set env' name v))
    (hassign : ∀ {h h'} name v, H h h' →
      H ((h.assign? env name v).getD h) ((h'.assign? env' name v).getD h')) :
    (S.alongside H).Lawful where
  result_of_isInert := law.result_of_isInert
  lookup?_eq hworlds := law.lookup?_eq hworlds.1
  result_of_lookup? hworlds := law.result_of_lookup? hworlds.1
  hasLocal_eq hworlds := law.hasLocal_eq hworlds.1
  noted message hworlds hlevel :=
    ⟨law.noted message hworlds.1 hlevel, by simpa using hworlds.2⟩
  misused e hworlds := ⟨law.misused e hworlds.1, by simpa using hworlds.2⟩
  defined name _ hworlds hv := ⟨law.defined name hworlds.1 hv, hset name _ hworlds.2⟩
  assigned name _ hworlds hv := ⟨law.assigned name hworlds.1 hv, hassign name _ hworlds.2⟩

/-- Counting evaluations does not touch the heaps. -/
theorem Nests.alongside (nests : S.Nests) : (S.alongside H).Nests where
  entered hworlds := ⟨nests.entered hworlds.1, hworlds.2⟩
  exited hworlds := ⟨nests.exited hworlds.1, hworlds.2⟩
  stopped hstops := ⟨nests.stopped hstops.1, hstops.2⟩

end Simulation

/-- Two worlds that differ in their environments only, where some are copies of others. -/
structure World.Mirrors (pairs : List (ScopeId × ScopeId)) (w w' : World) : Prop where
  /-- The environments are copies. -/
  heap : w.heap.Mirrors pairs w'.heap
  /-- All else is the same. -/
  eq_with_heap : w' = { w with heap := w'.heap }

/-- The environments may be replaced by others that are copies. -/
theorem World.Mirrors.replace {pairs more : List (ScopeId × ScopeId)} {w w' : World}
    (hworlds : w.Mirrors pairs w') {h h' : Heap} (hmirrors : h.Mirrors more h') :
    World.Mirrors more { w with heap := h } { w' with heap := h' } where
  heap := hmirrors
  eq_with_heap := by rw [hworlds.eq_with_heap]

section Mirrored

variable (p : Policies) (pairs : List (ScopeId × ScopeId)) (env env' : ScopeId)

/-- Evaluations in an environment and its copy. -/
def mirrored : Simulation p p env env' := (observed p env env').alongside (Heap.Mirrors pairs)

variable {env env'} {pairs}

/-- What an evaluation does in an environment it does in the copy. -/
theorem mirrored_lawful (henv : (env, env') ∈ pairs) : (mirrored p pairs env env').Lawful := by
  refine (observed_lawful p env env').alongside ?_ ?_
  · intro h h' name v hmirrors
    exact hmirrors.set henv name v
  · intro h h' name v hmirrors
    exact hmirrors.assign henv name v

/-- An expression has the same outcome in an environment and in its copy, which stays a copy. -/
theorem mirrored_evaluate (henv : (env, env') ∈ pairs) (e : Value) :
    (mirrored p pairs env env').Simulates (fun _ => True) (Registry.base.evaluate env e)
      (Registry.base.evaluate env' e) := by
  refine (mirrored_lawful p henv).evaluate rfl (observed_nests p env env').alongside ?_ ?_ e
  · intro w w' hworlds
    rw [hworlds.1.eq_with_heap]
  · intro w w' e hworlds
    exact ⟨⟨rfl, hworlds.1⟩, hworlds.2⟩

/-- A call has the same outcome in an environment and in its copy, and leaves the same log and count
behind. Copies it leaves as copies. -/
theorem mirrored_call (henv : (env, env') ∈ pairs) {w w' : World} (hworlds : w.Mirrors pairs w')
    (c : Call) :
    (c.run Registry.base.evaluate env' p w').1 = (c.run Registry.base.evaluate env p w).1 ∧
      World.Mirrors pairs (c.run Registry.base.evaluate env p w).2
        (c.run Registry.base.evaluate env' p w').2 := by
  have hcall := (mirrored_lawful p henv).call (mirrored_evaluate p henv)
    (fun hworlds => ⟨⟨rfl, hworlds.1⟩, hworlds.2⟩) c
  have hlt := hworlds.heap.lt_size henv
  have hstart : (mirrored p pairs env env').Worlds w w' :=
    ⟨⟨hworlds.heap.alike henv, hlt.1, hlt.2, hworlds.eq_with_heap⟩, hworlds.heap⟩
  obtain ⟨houtcome, hafter⟩ := (hcall hstart).same
    (fun hends => ⟨hends.1.1, hends.1.2, hends.2⟩) (fun _ hwaived => hwaived)
  exact ⟨houtcome, hafter.2, hafter.1.eq_with_heap⟩

end Mirrored

end Lisplet
