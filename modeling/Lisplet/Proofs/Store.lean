import Lisplet.Proofs.Environment
import Mathlib.Logic.Relation

/-!
# The laws of nested scopes

A heap is built from nothing by making scopes and writing bindings. In such a heap the way outwards
from a scope comes to an end, and each scope lists its names in ascending order and in canonical
form. A write changes one binding. It is seen from every environment whose way outwards meets that
binding first, under every spelling of its name, and from nowhere else.
-/

namespace Lisplet

/-! ### Names in order -/

namespace Dictionary

variable {α : Type} {d : Dictionary α} {key key' : Text} {value : α}

/-- A key has an entry exactly if it is listed. -/
theorem holds_iff_mem_keys : d.holds key = true ↔ key ∈ d.keys := by
  rw [holds, get?, keys]
  induction d.entries with
  | nil => simp
  | cons entry rest ih =>
    obtain ⟨k, v⟩ := entry
    rw [lookup_cons_eq, List.map_cons, List.mem_cons]
    by_cases hk : k = key
    · simp [hk]
    · rw [if_neg hk, ih]
      simp [Ne.symm hk]

/-- Inserting an entry adds its key to the others. -/
theorem mem_keys_insert : key' ∈ (d.insert key value).keys ↔ key' = key ∨ key' ∈ d.keys := by
  rw [← holds_iff_mem_keys, ← holds_iff_mem_keys, holds, holds, get?_insert]
  by_cases hkey : key = key'
  · simp [hkey]
  · have hkey' : key' ≠ key := fun h => hkey h.symm
    simp [hkey, hkey']

/-- The keys ascend strictly. -/
theorem pairwise_keys (d : Dictionary α) : d.keys.Pairwise fun a b => a.before b = true :=
  List.pairwise_map.mpr d.ascending

end Dictionary

namespace Heap

/-! ### Heaps that are built -/

/-- A heap that was built from nothing by making scopes and writing bindings. The names that were
written have a given property. -/
inductive Built (Name : Text → Prop) : Heap → Prop
  | empty : Built Name .empty
  | newRoot {h : Heap} : Built Name h → Built Name h.newRoot.2
  | push {h : Heap} {e : ScopeId} : Built Name h → e < h.scopes.size → Built Name (h.push e).2
  | set {h : Heap} {name : Text} (e : ScopeId) (value : Value) :
    Built Name h → Name name → Built Name (h.set e name value)
  | setMany {h : Heap} {pairs : List (Text × Value)} (e : ScopeId) :
    Built Name h → (∀ pair ∈ pairs, Name pair.1) → Built Name (h.setMany e pairs)
  | assign {h h' : Heap} {e : ScopeId} {name : Text} {value : Value} :
    Built Name h → h.assign? e name value = some h' → Built Name h'

/-- What is kept while a heap is built. -/
structure Orderly (Name : Text → Prop) (h : Heap) : Prop where
  /-- The scope around a scope is older. -/
  outer_lt : ∀ {s o : ScopeId}, h.outer? s = some o → o < s
  /-- The names in a scope are canonical forms of names that were written. -/
  named : ∀ {s : ScopeId} {key : Text}, key ∈ h.keys s → ∃ name, Name name ∧ name.nfc = key

variable {Name : Text → Prop} {h h' : Heap}

/-- The empty heap is orderly. -/
theorem Orderly.empty : Orderly Name .empty where
  outer_lt h := by simp [outer?, scope?, Heap.empty] at h
  named h := by simp [keys, bindings, scope?, Heap.empty, Dictionary.empty, Dictionary.keys] at h

/-- A new scope inside an older one keeps a heap orderly. -/
theorem Orderly.new (horderly : h.Orderly Name) {outer : Option ScopeId}
    (houter : ∀ o, outer = some o → o < h.scopes.size) : (h.new outer).2.Orderly Name where
  outer_lt {s o} hs := by
    rw [outer?_new] at hs
    split at hs
    · rename_i hnew
      rw [hnew]
      exact houter o hs
    · exact horderly.outer_lt hs
  named hkey := by
    rw [keys, bindings_new] at hkey
    exact horderly.named hkey

/-- So does a write under the canonical form of a name. -/
theorem Orderly.write (horderly : h.Orderly Name) (s : ScopeId) {key : Text}
    (hkey : ∃ name, Name name ∧ name.nfc = key) (value : Value) :
    (h.write s key value).Orderly Name where
  outer_lt ht := by
    rw [outer?_write] at ht
    exact horderly.outer_lt ht
  named hmem := by
    rw [keys, bindings_write] at hmem
    split at hmem
    · rcases Dictionary.mem_keys_insert.mp hmem with rfl | hmem
      · exact hkey
      · exact horderly.named hmem
    · exact horderly.named hmem

/-- So does the binding of a name. -/
theorem Orderly.set (horderly : h.Orderly Name) (e : ScopeId) {name : Text} (hname : Name name)
    (value : Value) : (h.set e name value).Orderly Name :=
  horderly.write e ⟨name, hname, rfl⟩ value.clone

/-- So do several bindings. -/
theorem Orderly.setMany (horderly : h.Orderly Name) (e : ScopeId) {pairs : List (Text × Value)}
    (hnames : ∀ pair ∈ pairs, Name pair.1) : (h.setMany e pairs).Orderly Name := by
  induction pairs generalizing h with
  | nil => exact horderly
  | cons pair rest ih =>
    rw [List.forall_mem_cons] at hnames
    exact ih (horderly.set e hnames.1 pair.2) hnames.2

/-- An assignment writes under a name that is there already. -/
theorem Orderly.assign (horderly : h.Orderly Name) {e : ScopeId} {name : Text} {value : Value}
    (hassign : h.assign? e name value = some h') : h'.Orderly Name := by
  obtain ⟨s, hresolve, rfl⟩ := assign?_eq_some_iff.mp hassign
  have hheld : h.holds name.nfc s = true := List.find?_some hresolve
  exact horderly.write s (horderly.named (Dictionary.holds_iff_mem_keys.mp hheld)) value.clone

/-- A heap that was built is in order. -/
theorem Built.orderly (hbuilt : h.Built Name) : h.Orderly Name := by
  induction hbuilt with
  | empty => exact .empty
  | newRoot _ ih => exact ih.new (by simp)
  | push _ he ih => exact ih.new (by simpa using he)
  | set e value _ hname ih => exact ih.set e hname value
  | setMany e _ hnames ih => exact ih.setMany e hnames
  | assign _ hassign ih => exact ih.assign hassign

/-! ### Order in a heap -/

/-- No way outwards leads back. -/
theorem Orderly.acyclic (horderly : h.Orderly Name) (s : ScopeId) :
    ¬ Relation.TransGen (fun inner outer => h.outer? inner = some outer) s s := by
  have hlt : ∀ {a b}, Relation.TransGen (fun inner outer => h.outer? inner = some outer) a b →
      b < a := by
    intro a b hway
    induction hway with
    | single hstep => exact horderly.outer_lt hstep
    | tail _ hstep ih => exact Nat.lt_trans (horderly.outer_lt hstep) ih
  exact fun hcycle => Nat.lt_irrefl s (hlt hcycle)

/-- The way outwards from a scope goes on from the scope around it. -/
theorem Orderly.chain_eq (horderly : h.Orderly Name) (e : ScopeId) :
    h.chain e = e :: (h.outer? e).elim [] h.chain := by
  rw [chain]
  cases houter : h.outer? e with
  | none => rfl
  | some o =>
    have ho : o < e := horderly.outer_lt houter
    simp [ho]

/-- The names of a scope are in canonical form and no two of them are equivalent, if canonical
forms are final for the names that were written. -/
theorem Orderly.canonical (horderly : h.Orderly Name)
    (hfinal : ∀ name, Name name → name.nfc.nfc = name.nfc) (s : ScopeId) :
    (∀ key ∈ h.keys s, key.nfc = key) ∧ (h.keys s).Pairwise fun a b => a.nfc ≠ b.nfc := by
  have hcanonical : ∀ key ∈ h.keys s, key.nfc = key := by
    intro key hkey
    obtain ⟨name, hname, rfl⟩ := horderly.named hkey
    exact hfinal name hname
  refine ⟨hcanonical, ?_⟩
  have hdistinct : (h.keys s).Pairwise fun a b => a ≠ b := by
    refine List.Pairwise.imp (fun {a b} hbefore heq => ?_) (h.bindings s).pairwise_keys
    rw [heq, Text.before_irrefl] at hbefore
    cases hbefore
  refine hdistinct.imp_of_mem fun ha hb hne => ?_
  rwa [hcanonical _ ha, hcanonical _ hb]

/-! ### Writes -/

/-- A heap and what a write makes of it. One binding, that of a name in a scope, gets a value. -/
structure Rebound (h h' : Heap) (s : ScopeId) (name : Text) (value : Value) : Prop where
  /-- There are as many scopes as before. -/
  size_eq : h'.scopes.size = h.scopes.size
  /-- The scopes are nested as before. -/
  outer?_eq : ∀ t, h'.outer? t = h.outer? t
  /-- The binding has the value, and all others are as before. -/
  get?_eq : ∀ t key, (h'.bindings t).get? key =
    if t = s ∧ key = name.nfc then some value else (h.bindings t).get? key
  /-- A look-up of the name, in any spelling, gives the value where the scope is the first on the
  way that holds the name. -/
  lookup?_of_first : ∀ f other, other.nfc = name.nfc → h'.FirstHolding f other s →
    h'.lookup? f other = some value
  /-- All other look-ups give what they gave before. -/
  lookup?_of_not_first : ∀ f other, ¬ (other.nfc = name.nfc ∧ h'.FirstHolding f other s) →
    h'.lookup? f other = h.lookup? f other

/-- Writing to a scope that there is sets one binding. -/
theorem Rebound.write {s : ScopeId} (hs : s < h.scopes.size) (name : Text) (value : Value) :
    h.Rebound (h.write s name.nfc value.clone) s name value where
  size_eq := h.size_write s name.nfc value.clone
  outer?_eq t := h.outer?_write s t name.nfc value.clone
  get?_eq t key := by
    rw [get?_bindings_write, Value.clone_eq]
    simp only [hs, and_true, eq_comm]
  lookup?_of_first f other hother hfirst := by
    rw [lookup?_write, if_pos ⟨hother.symm, resolve?_eq_some_iff.mpr hfirst⟩, Value.clone_eq]
  lookup?_of_not_first f other hnot := by
    rw [lookup?_write, if_neg]
    rintro ⟨hother, hresolve⟩
    exact hnot ⟨hother.symm, resolve?_eq_some_iff.mp hresolve⟩

/-- An assignment rewrites the binding in the first scope that holds the name, and does not change
where names are found. -/
theorem Rebound.assign {e : ScopeId} {name : Text} {value : Value}
    (hassign : h.assign? e name value = some h') :
    ∃ s, h.FirstHolding e name s ∧ h.Rebound h' s name value ∧
      ∀ f other t, h'.FirstHolding f other t ↔ h.FirstHolding f other t := by
  obtain ⟨s, hresolve, rfl⟩ := assign?_eq_some_iff.mp hassign
  have hheld : h.holds name.nfc s = true := List.find?_some hresolve
  refine ⟨s, resolve?_eq_some_iff.mp hresolve, .write (lt_size_of_holds hheld) name value, ?_⟩
  intro f other t
  rw [← resolve?_eq_some_iff, ← resolve?_eq_some_iff, resolve?_write_of_holds hheld]

/-- The laws of a heap that was built. No way outwards leads back, and it goes on from each scope to
the one around it. A name is bound if some scope on the way holds it, and has the value in the first
scope that does. Binding a name sets one binding of the scope. An assignment has a result exactly if
the name is bound, and sets the binding in the first scope that holds it. The names of each scope
ascend; they are in canonical form and no two are equivalent, if canonical forms are final. -/
theorem Built.store_laws (hbuilt : h.Built Name) :
    (∀ s, ¬ Relation.TransGen (fun inner outer => h.outer? inner = some outer) s s) ∧
      (∀ e, h.chain e = e :: (h.outer? e).elim [] h.chain) ∧
      (∀ e name, h.has e name = true ↔ ∃ s, h.FirstHolding e name s) ∧
      (∀ e name v, h.lookup? e name = some v ↔
        ∃ s, h.FirstHolding e name s ∧ (h.bindings s).get? name.nfc = some v) ∧
      (∀ e < h.scopes.size, ∀ name value, h.Rebound (h.set e name value) e name value) ∧
      (∀ e name value, (h.assign? e name value).isSome = h.has e name ∧
        ∀ h', h.assign? e name value = some h' → ∃ s, h.FirstHolding e name s ∧
          h.Rebound h' s name value ∧
          ∀ f other t, h'.FirstHolding f other t ↔ h.FirstHolding f other t) ∧
      ∀ s, (h.keys s).Pairwise (fun a b => a.before b = true) ∧
        ((∀ name, Name name → name.nfc.nfc = name.nfc) →
          (∀ key ∈ h.keys s, key.nfc = key) ∧ (h.keys s).Pairwise fun a b => a.nfc ≠ b.nfc) := by
  have horderly := hbuilt.orderly
  refine ⟨horderly.acyclic, horderly.chain_eq, ?_, ?_, ?_, ?_, ?_⟩
  · intro e name
    exact has_iff_exists_firstHolding
  · intro e name v
    exact lookup?_eq_some_iff
  · intro e he name value
    exact .write he name value
  · intro e name value
    exact ⟨h.isSome_assign? e name value, fun h' => Rebound.assign⟩
  · intro s
    exact ⟨(h.bindings s).pairwise_keys, fun hfinal => horderly.canonical hfinal s⟩

/-- A root with two scopes in it. The root binds a letter that is written with its accent apart. -/
def siblings : Heap :=
  ((Heap.empty.newRoot.2.push 0).2.push 0).2.set 0 (text "e\u0301") (.bool true)

/-- Under the other spelling of the letter, one scope hides the binding and the other replaces
it. -/
theorem Built.store_laws_siblings :
    (∀ key ∈ siblings.keys 0, key.nfc = key) ∧
      siblings.Rebound (siblings.set 1 (text "\u00e9") (.bool false)) 1 (text "\u00e9")
        (.bool false) ∧
      (siblings.set 1 (text "\u00e9") (.bool false)).lookup? 1 (text "e\u0301") =
        some (.bool false) ∧
      ∃ h', siblings.assign? 2 (text "\u00e9") (.bool false) = some h' ∧
        siblings.Rebound h' 0 (text "\u00e9") (.bool false) := by
  have hbuilt : siblings.Built fun name => name = text "e\u0301" :=
    .set 0 _ (.push (.push (.newRoot .empty) (by decide)) (by decide)) rfl
  obtain ⟨-, -, hbound, -, hset, hassign, hkeys⟩ := hbuilt.store_laws
  have hfinal : ∀ name, name = text "e\u0301" → name.nfc.nfc = name.nfc := by
    rintro name rfl
    decide +kernel
  have hfirst : siblings.FirstHolding 2 (text "\u00e9") 0 :=
    ⟨[2], [], by decide +kernel, by decide +kernel, by decide +kernel⟩
  have hinner : (siblings.set 1 (text "\u00e9") (.bool false)).FirstHolding 1
      (text "e\u0301") 1 :=
    ⟨[], [0], by decide +kernel, by decide +kernel, by decide +kernel⟩
  have hhidden := hset 1 (by decide) (text "\u00e9") (.bool false)
  refine ⟨((hkeys 0).2 hfinal).1, hhidden, ?_, ?_⟩
  · exact hhidden.lookup?_of_first 1 _ (by decide +kernel) hinner
  · obtain ⟨hisSome, hresult⟩ := hassign 2 (text "\u00e9") (.bool false)
    rw [(hbound 2 _).mpr ⟨0, hfirst⟩] at hisSome
    obtain ⟨h', hh'⟩ := Option.isSome_iff_exists.mp hisSome
    obtain ⟨s, hs, hrebound, -⟩ := hresult h' hh'
    obtain rfl := hfirst.unique hs
    exact ⟨h', hh', hrebound⟩

end Heap

end Lisplet
