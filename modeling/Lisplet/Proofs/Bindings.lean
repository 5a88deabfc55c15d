import Mathlib.Data.List.Perm.Basic
import Lisplet.Proofs.Environment

/-!
# Binding many names

Names can be bound one after the other. Canonically equivalent names are one name to a scope, so of
several spellings the one that is bound last counts. All else stays as it was. The order therefore
makes no difference exactly if equivalent names are given the same value.
-/

namespace Lisplet

/-! ### What counts of several bindings -/

section Latest

variable {α : Type}

/-- What is bound last to a name with a given canonical form. -/
def latest? (pairs : List (Text × α)) (key : Text) : Option α :=
  ((pairs.filter fun pair => pair.1.nfc = key).getLast?).map Prod.snd

/-- A pair at the end comes before all others with its key. -/
theorem latest?_concat (pairs : List (Text × α)) (pair : Text × α) (key : Text) :
    latest? (pairs ++ [pair]) key =
      if pair.1.nfc = key then some pair.2 else latest? pairs key := by
  rw [latest?, List.filter_append]
  by_cases hkey : pair.1.nfc = key
  · simp [hkey]
  · simp [hkey, latest?]

/-- A key has no value exactly if no pair is spelled like it. -/
theorem latest?_eq_none_iff {pairs : List (Text × α)} {key : Text} :
    latest? pairs key = none ↔ ∀ pair ∈ pairs, pair.1.nfc ≠ key := by
  simp [latest?]

/-- A value is bound last if it is bound to a spelling of the name and no spelling comes behind. -/
theorem latest?_eq_some_iff {pairs : List (Text × α)} {key : Text} {value : α} :
    latest? pairs key = some value ↔
      ∃ front name back, pairs = front ++ (name, value) :: back ∧ name.nfc = key ∧
        ∀ pair ∈ back, pair.1.nfc ≠ key := by
  constructor
  · intro h
    rw [latest?, Option.map_eq_some_iff] at h
    obtain ⟨⟨name, value'⟩, hlast, rfl⟩ := h
    obtain ⟨others, hfilter⟩ := List.getLast?_eq_some_iff.mp hlast
    obtain ⟨front, rest, rfl, -, hrest⟩ := List.filter_eq_append_iff.mp hfilter
    obtain ⟨middle, back, rfl, -, hname, hback⟩ := List.filter_eq_cons_iff.mp hrest
    refine ⟨front ++ middle, name, back, by rw [List.append_assoc], by simpa using hname, ?_⟩
    simpa [List.filter_eq_nil_iff] using hback
  · rintro ⟨front, name, back, rfl, rfl, hback⟩
    have hnone : (back.filter fun pair => pair.1.nfc = name.nfc) = [] := by
      simpa [List.filter_eq_nil_iff] using hback
    simp [latest?, hnone]

end Latest

/-! ### Scopes -/

namespace Heap

/-- The last pair is bound behind all others. -/
theorem setMany_concat (h : Heap) (e : ScopeId) (pairs : List (Text × Value))
    (pair : Text × Value) :
    h.setMany e (pairs ++ [pair]) = (h.setMany e pairs).set e pair.1 pair.2 := by
  rw [setMany, List.foldl_append]
  rfl

/-- Binding names makes no scopes. -/
@[simp] theorem size_setMany (h : Heap) (e : ScopeId) (pairs : List (Text × Value)) :
    (h.setMany e pairs).scopes.size = h.scopes.size := by
  induction pairs using List.reverseRecOn with
  | nil => rfl
  | append_singleton pairs pair ih => rw [setMany_concat, set, size_write, ih]

/-- Binding names does not change how scopes are nested. -/
@[simp] theorem outer?_setMany (h : Heap) (e : ScopeId) (pairs : List (Text × Value))
    (t : ScopeId) : (h.setMany e pairs).outer? t = h.outer? t := by
  induction pairs using List.reverseRecOn with
  | nil => rfl
  | append_singleton pairs pair ih => rw [setMany_concat, set, outer?_write, ih]

/-- Binding names changes no other scope. -/
theorem bindings_setMany_of_ne (h : Heap) {e t : ScopeId} (ht : t ≠ e)
    (pairs : List (Text × Value)) : (h.setMany e pairs).bindings t = h.bindings t := by
  induction pairs using List.reverseRecOn with
  | nil => rfl
  | append_singleton pairs pair ih =>
    rw [setMany_concat, set, bindings_write, if_neg fun hscope => ht hscope.1.symm, ih]

/-- A canonical name has the value that was bound to it last, and the old one if none was. -/
theorem get?_bindings_setMany {h : Heap} {e : ScopeId} (he : e < h.scopes.size)
    (pairs : List (Text × Value)) (key : Text) :
    ((h.setMany e pairs).bindings e).get? key =
      (latest? pairs key).or ((h.bindings e).get? key) := by
  induction pairs using List.reverseRecOn with
  | nil => rfl
  | append_singleton pairs pair ih =>
    rw [setMany_concat, set, get?_bindings_write, size_setMany, Value.clone_eq, latest?_concat, ih]
    by_cases hkey : pair.1.nfc = key
    · simp [hkey, he]
    · simp [hkey]

/-- Two heaps with the same bindings: all scopes hold the same names with the same values. -/
def SameBindings (h h' : Heap) : Prop :=
  ∀ t key, (h.bindings t).get? key = (h'.bindings t).get? key

/-- The order in which names are bound makes no difference if equivalent names have one value. -/
theorem sameBindings_of_perm (h : Heap) {e : ScopeId} (he : e < h.scopes.size)
    {pairs order : List (Text × Value)}
    (hpairs : ∀ a ∈ pairs, ∀ b ∈ pairs, a.1.nfc = b.1.nfc → a.2 = b.2) (horder : order.Perm pairs) :
    (h.setMany e order).SameBindings (h.setMany e pairs) := by
  intro t key
  by_cases ht : t = e
  · subst ht
    rw [get?_bindings_setMany he, get?_bindings_setMany he]
    congr 1
    -- Both orders have a last spelling or none, and all spellings have the same value.
    cases hlatest : latest? pairs key with
    | none =>
      rw [latest?_eq_none_iff] at hlatest ⊢
      exact fun pair hpair => hlatest pair (horder.mem_iff.mp hpair)
    | some value =>
      obtain ⟨front, name, back, rfl, hname, -⟩ := latest?_eq_some_iff.mp hlatest
      have hmem : (name, value) ∈ front ++ (name, value) :: back := by simp
      cases hother : latest? order key with
      | none =>
        exact absurd hname (latest?_eq_none_iff.mp hother _ (horder.mem_iff.mpr hmem))
      | some value' =>
        obtain ⟨front', name', back', rfl, hname', -⟩ := latest?_eq_some_iff.mp hother
        have hmem' : (name', value') ∈ front ++ (name, value) :: back :=
          horder.mem_iff.mp (by simp)
        exact congrArg some (hpairs _ hmem' _ hmem (hname'.trans hname.symm))
  · rw [bindings_setMany_of_ne h ht, bindings_setMany_of_ne h ht]

/-- If some pairs are bound with a given one at the end, its name has its value. -/
theorem get?_bindings_setMany_concat {h : Heap} {e : ScopeId} (he : e < h.scopes.size)
    (pairs : List (Text × Value)) (pair : Text × Value) :
    ((h.setMany e (pairs ++ [pair])).bindings e).get? pair.1.nfc = some pair.2 := by
  rw [get?_bindings_setMany he, latest?_concat, if_pos rfl, Option.some_or]

/-- When many names are bound at once, each canonical name gets the value of the spelling that is
visited last, and all else is kept. All orders of visiting leave the same bindings exactly if
canonically equivalent names have the same value. -/
theorem setMany_order_iff (h : Heap) {e : ScopeId} (he : e < h.scopes.size)
    (pairs : List (Text × Value)) :
    (∀ order, order.Perm pairs →
      (∀ key, ((h.setMany e order).bindings e).get? key =
        (latest? order key).or ((h.bindings e).get? key)) ∧
      (∀ t, t ≠ e → (h.setMany e order).bindings t = h.bindings t) ∧
      ∀ t, (h.setMany e order).outer? t = h.outer? t) ∧
    ((∀ order, order.Perm pairs → (h.setMany e order).SameBindings (h.setMany e pairs)) ↔
      ∀ a ∈ pairs, ∀ b ∈ pairs, a.1.nfc = b.1.nfc → a.2 = b.2) := by
  refine ⟨fun order _ => ⟨get?_bindings_setMany he order,
    fun t ht => h.bindings_setMany_of_ne ht order, h.outer?_setMany e order⟩, ?_, ?_⟩
  · intro hsame a ha b hb hname
    -- Each of the two can be visited last.
    have hlast : ∀ c ∈ pairs, ((h.setMany e pairs).bindings e).get? c.1.nfc = some c.2 := by
      intro c hc
      obtain ⟨front, back, rfl⟩ := List.append_of_mem hc
      have hperm : ((front ++ back) ++ [c]).Perm (front ++ c :: back) := by
        rw [List.append_assoc]
        exact (List.perm_append_singleton c back).append_left front
      rw [← hsame _ hperm e c.1.nfc]
      exact get?_bindings_setMany_concat he (front ++ back) c
    have hvalues := (hlast a ha).symm.trans ((congrArg _ hname).trans (hlast b hb))
    exact Option.some.inj hvalues
  · exact fun hpairs order horder => h.sameBindings_of_perm he hpairs horder

/-- A letter with an accent is bound in both of its spellings, to the same value, and another letter
to a different one. -/
theorem setMany_order_iff_spellings :
    0 < Heap.empty.newRoot.2.scopes.size ∧
    ∀ order : List (Text × Value),
      order.Perm [(text "x", .nil), (text "\u00e9", .bool true), (text "e\u0301", .bool true)] →
      (Heap.empty.newRoot.2.setMany 0 order).SameBindings (Heap.empty.newRoot.2.setMany 0
        [(text "x", .nil), (text "\u00e9", .bool true), (text "e\u0301", .bool true)]) := by
  have hroot : 0 < Heap.empty.newRoot.2.scopes.size := by decide
  have hcomposed : (text "x").nfc ≠ (text "\u00e9").nfc := by decide +kernel
  have hdecomposed : (text "x").nfc ≠ (text "e\u0301").nfc := by decide +kernel
  refine ⟨hroot, (setMany_order_iff _ hroot _).2.mpr ?_⟩
  simp [hcomposed, hcomposed.symm, hdecomposed, hdecomposed.symm]

/-- The two spellings are different names, and a map can give them different values. Then it depends
on the order of visiting which value the letter has. -/
theorem setMany_order_differs :
    text "\u00e9" ≠ text "e\u0301" ∧
    [(text "e\u0301", Value.bool false), (text "\u00e9", .bool true)].Perm
      [(text "\u00e9", .bool true), (text "e\u0301", .bool false)] ∧
    ¬ (Heap.empty.newRoot.2.setMany 0
        [(text "e\u0301", .bool false), (text "\u00e9", .bool true)]).SameBindings
      (Heap.empty.newRoot.2.setMany 0
        [(text "\u00e9", .bool true), (text "e\u0301", .bool false)]) := by
  have hroot : 0 < Heap.empty.newRoot.2.scopes.size := by decide
  have hnfc : (text "\u00e9").nfc = (text "e\u0301").nfc := by decide +kernel
  refine ⟨by decide, List.Perm.swap _ _ _, fun hsame => ?_⟩
  have hcomposed := get?_bindings_setMany_concat hroot [(text "e\u0301", .bool false)]
    (text "\u00e9", .bool true)
  have hdecomposed := get?_bindings_setMany_concat hroot [(text "\u00e9", .bool true)]
    (text "e\u0301", .bool false)
  rw [← hnfc] at hdecomposed
  have hvalues := hcomposed.symm.trans ((hsame 0 _).trans hdecomposed)
  cases hvalues

end Heap

end Lisplet
