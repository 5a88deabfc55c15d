import Lisplet.Environment
import Mathlib.Data.List.Induction

/-!
# Bindings in nested scopes

A write changes one binding of one scope and nothing about how scopes are nested. The way outwards
begins with the scope itself and goes on to older scopes only. A name has the value that the first
scope on the way holds for it.
-/

namespace Lisplet

mutual

/-- A copy of a value is the same value. -/
theorem Value.clone_eq (v : Value) : v.clone = v := by
  cases v with
  | list items => rw [clone, Value.cloneItems_eq items]
  | _ => rfl

/-- Copies of items are the same items. -/
theorem Value.cloneItems_eq (items : List Value) : cloneItems items = items := by
  cases items with
  | nil => rfl
  | cons v rest => rw [cloneItems, Value.clone_eq v, Value.cloneItems_eq rest]

end

/-! ### Dictionaries -/

namespace Dictionary

variable {α : Type}

/-- The first entry is found under its key, and the others under all other keys. -/
theorem lookup_cons_eq (k key : Text) (v : α) (rest : List (Text × α)) :
    ((k, v) :: rest).lookup key = if k = key then some v else rest.lookup key := by
  by_cases hkey : k = key
  · subst hkey
    simp
  · have hne : (key == k) = false := beq_eq_false_iff_ne.mpr (Ne.symm hkey)
    rw [List.lookup_cons, hne, if_neg hkey]

/-- Placing an entry sets what is found under its key. -/
theorem lookup_place (key key' : Text) (value : α) (entries : List (Text × α)) :
    (place key value entries).lookup key' =
      if key = key' then some value else entries.lookup key' := by
  induction entries with
  | nil => exact lookup_cons_eq key key' value []
  | cons entry rest ih =>
    obtain ⟨k, v⟩ := entry
    rw [place]
    by_cases hk : k = key
    · subst hk
      by_cases hkey : k = key' <;> simp [lookup_cons_eq, hkey]
    · rw [if_neg hk]
      by_cases hbefore : key.before k = true
      · rw [if_pos hbefore, lookup_cons_eq]
      · rw [if_neg hbefore, lookup_cons_eq, lookup_cons_eq, ih]
        by_cases hkey : k = key'
        · have hne : key ≠ key' := fun h => hk (hkey.trans h.symm)
          simp [hkey, hne]
        · simp [hkey]

/-- Inserting an entry sets what is found under its key, and nothing else. -/
theorem get?_insert (d : Dictionary α) (key key' : Text) (value : α) :
    (d.insert key value).get? key' = if key = key' then some value else d.get? key' :=
  lookup_place key key' value d.entries

/-- What a dictionary made of entries finds is one of them. -/
theorem mem_of_get?_ofList {entries : List (Text × α)} {key : Text} {value : α}
    (h : (ofList entries).get? key = some value) : (key, value) ∈ entries := by
  -- The entries are inserted from the first to the last, so the induction is on the list from
  -- behind.
  induction entries using List.reverseRecOn with
  | nil => cases h
  | append_singleton entries entry ih =>
    rw [ofList, List.foldl_append, List.foldl_cons, List.foldl_nil, get?_insert] at h
    split at h
    · obtain rfl := Option.some.inj h
      subst key
      exact List.mem_append_right _ (List.mem_singleton.mpr rfl)
    · exact List.mem_append_left _ (ih h)

end Dictionary

namespace Heap

/-! ### The way outwards -/

/-- The way outwards depends on the nesting of scopes only. -/
theorem chain_congr {h h' : Heap} (houter : ∀ s, h'.outer? s = h.outer? s) (e : ScopeId) :
    h'.chain e = h.chain e := by
  induction e using Nat.strongRecOn with
  | ind e ih =>
    rw [chain, chain.eq_def h, houter]
    cases h.outer? e with
    | none => rfl
    | some o =>
      by_cases ho : o < e
      · simp [ho, ih o ho]
      · simp [ho]

/-- The way outwards begins with the scope, and all scopes behind it are older. -/
theorem chain_eq_cons (h : Heap) (e : ScopeId) :
    ∃ outwards, h.chain e = e :: outwards ∧ ∀ s ∈ outwards, s < e := by
  induction e using Nat.strongRecOn with
  | ind e ih =>
    rw [chain]
    cases h.outer? e with
    | none => exact ⟨[], rfl, by simp⟩
    | some o =>
      by_cases ho : o < e
      · obtain ⟨outwards, hchain, holder⟩ := ih o ho
        refine ⟨h.chain o, by simp [ho], ?_⟩
        intro s hs
        rw [hchain, List.mem_cons] at hs
        rcases hs with rfl | hs
        · exact ho
        · exact Nat.lt_trans (holder s hs) ho
      · exact ⟨[], by simp [ho], by simp⟩

/-- The way outwards from a scope leads to older scopes only. -/
theorem lt_of_mem_tail_chain {h : Heap} {e s : ScopeId} (hs : s ∈ (h.chain e).tail) : s < e := by
  obtain ⟨outwards, hchain, holder⟩ := h.chain_eq_cons e
  rw [hchain, List.tail_cons] at hs
  exact holder s hs

/-! ### Looking names up -/

/-- A scope is the first on the way outwards from an environment that holds a name. -/
def FirstHolding (h : Heap) (e : ScopeId) (name : Text) (s : ScopeId) : Prop :=
  ∃ inner outwards, h.chain e = inner ++ s :: outwards ∧ h.holds name.nfc s = true ∧
    ∀ t ∈ inner, h.holds name.nfc t = false

/-- A name is found in the first scope on the way outwards that holds it. -/
theorem resolve?_eq_some_iff {h : Heap} {e s : ScopeId} {name : Text} :
    h.resolve? e name = some s ↔ h.FirstHolding e name s := by
  rw [resolve?, List.find?_eq_some_iff_append]
  constructor
  · rintro ⟨hheld, inner, outwards, hchain, hinner⟩
    exact ⟨inner, outwards, hchain, hheld, fun t ht => by simpa using hinner t ht⟩
  · rintro ⟨inner, outwards, hchain, hheld, hinner⟩
    exact ⟨hheld, inner, outwards, hchain, fun t ht => by simp [hinner t ht]⟩

/-- Only one scope is the first that holds a name. -/
theorem FirstHolding.unique {h : Heap} {e s t : ScopeId} {name : Text}
    (hs : h.FirstHolding e name s) (ht : h.FirstHolding e name t) : s = t := by
  rw [← resolve?_eq_some_iff] at hs ht
  exact Option.some.inj (hs.symm.trans ht)

/-- A name is bound exactly if some scope on the way outwards is the first to hold it. -/
theorem has_iff_exists_firstHolding {h : Heap} {e : ScopeId} {name : Text} :
    h.has e name = true ↔ ∃ s, h.FirstHolding e name s := by
  simp only [has, Option.isSome_iff_exists, resolve?_eq_some_iff]

/-- A name has the value that the first scope on the way outwards holds for it, and no other. -/
theorem lookup?_eq_some_iff {h : Heap} {e : ScopeId} {name : Text} {v : Value} :
    h.lookup? e name = some v ↔
      ∃ s, h.FirstHolding e name s ∧ (h.bindings s).get? name.nfc = some v := by
  simp only [lookup?, Option.bind_eq_some_iff, resolve?_eq_some_iff]

/-- The value of a name is the first one that is found on the way outwards. -/
theorem lookup?_eq_findSome? (h : Heap) (e : ScopeId) (name : Text) :
    h.lookup? e name = (h.chain e).findSome? fun s => (h.bindings s).get? name.nfc := by
  rw [lookup?, resolve?]
  induction h.chain e with
  | nil => rfl
  | cons s rest ih =>
    cases hget : (h.bindings s).get? name.nfc with
    | none => simpa [List.find?_cons, holds, Dictionary.holds, hget] using ih
    | some v => simp [holds, Dictionary.holds, hget]

/-- A name is bound exactly if it has a value. -/
theorem has_eq_isSome_lookup? (h : Heap) (e : ScopeId) (name : Text) :
    h.has e name = (h.lookup? e name).isSome := by
  rw [has, lookup?]
  cases hresolve : h.resolve? e name with
  | none => rfl
  | some s =>
    have hholds : h.holds name.nfc s = true := List.find?_some hresolve
    rw [Option.isSome_some, Option.bind_some]
    exact hholds.symm

/-- A name is bound exactly if some scope on the way outwards holds it. -/
theorem has_eq_any (h : Heap) (e : ScopeId) (name : Text) :
    h.has e name = (h.chain e).any (h.holds name.nfc) := by
  rw [has, resolve?, List.isSome_find?]

/-! ### Writing a binding -/

/-- A write makes no scope. -/
@[simp] theorem size_write (h : Heap) (s : ScopeId) (key : Text) (value : Value) :
    (h.write s key value).scopes.size = h.scopes.size := by
  simp [write]

/-- A write inserts one entry into the scope that it goes to. -/
theorem scope?_write (h : Heap) (s t : ScopeId) (key : Text) (value : Value) :
    (h.write s key value).scope? t =
      if s = t then
        (h.scope? t).map fun scope => { scope with bindings := scope.bindings.insert key value }
      else h.scope? t := by
  simp [scope?, write, Array.getElem?_modify]

/-- A write does not change how scopes are nested. -/
@[simp] theorem outer?_write (h : Heap) (s t : ScopeId) (key : Text) (value : Value) :
    (h.write s key value).outer? t = h.outer? t := by
  rw [outer?, outer?, scope?_write]
  by_cases hst : s = t
  · rw [if_pos hst]
    cases h.scope? t <;> rfl
  · rw [if_neg hst]

/-- A write does not change the way outwards. -/
@[simp] theorem chain_write (h : Heap) (s e : ScopeId) (key : Text) (value : Value) :
    (h.write s key value).chain e = h.chain e :=
  chain_congr (h.outer?_write s · key value) e

/-- A write changes the bindings of its scope only, and only if there is such a scope. -/
theorem bindings_write (h : Heap) (s t : ScopeId) (key : Text) (value : Value) :
    (h.write s key value).bindings t =
      if s = t ∧ s < h.scopes.size then (h.bindings t).insert key value else h.bindings t := by
  rw [bindings, bindings, scope?_write]
  by_cases hst : s = t
  · subst hst
    cases hscope : h.scope? s with
    | none =>
      have hsize : ¬ s < h.scopes.size := by
        simpa [scope?] using hscope
      simp [hsize]
    | some scope =>
      have hsize : s < h.scopes.size := by
        by_contra hsize
        simp [scope?, hsize] at hscope
      simp [hsize]
  · simp [hst]

/-- A write is found where it was made, if there is a scope, and all else is found as before. -/
theorem get?_bindings_write (h : Heap) (s t : ScopeId) (key key' : Text) (value : Value) :
    ((h.write s key value).bindings t).get? key' =
      if s = t ∧ key = key' ∧ s < h.scopes.size then some value else (h.bindings t).get? key' := by
  rw [bindings_write]
  by_cases hscope : s = t ∧ s < h.scopes.size
  · rw [if_pos hscope, Dictionary.get?_insert]
    obtain ⟨rfl, hsize⟩ := hscope
    simp [hsize]
  · have hother : ¬ (s = t ∧ key = key' ∧ s < h.scopes.size) := fun h => hscope ⟨h.1, h.2.2⟩
    rw [if_neg hscope, if_neg hother]

/-- A scope holds a name after a write if the name was written to it or was there before. -/
theorem holds_write (h : Heap) (s t : ScopeId) (key key' : Text) (value : Value) :
    (h.write s key value).holds key' t =
      (decide (s = t ∧ key = key' ∧ s < h.scopes.size) || h.holds key' t) := by
  rw [holds, Dictionary.holds, get?_bindings_write]
  by_cases hwritten : s = t ∧ key = key' ∧ s < h.scopes.size
  · rw [if_pos hwritten, decide_eq_true hwritten, Bool.true_or, Option.isSome_some]
  · rw [if_neg hwritten, decide_eq_false hwritten, Bool.false_or]
    rfl

/-- Only scopes that there are hold names. -/
theorem lt_size_of_holds {h : Heap} {s : ScopeId} {key : Text} (hs : h.holds key s = true) :
    s < h.scopes.size := by
  by_contra hsize
  simp [holds, bindings, scope?, hsize, Dictionary.holds, Dictionary.empty, Dictionary.get?] at hs

/-- After a write a name has the new value if the way outwards meets the written binding first, and
its old value otherwise. -/
theorem lookup?_write (h : Heap) (s e : ScopeId) (key : Text) (value : Value) (name : Text) :
    (h.write s key value).lookup? e name =
      if key = name.nfc ∧ (h.write s key value).resolve? e name = some s then some value
      else h.lookup? e name := by
  rw [lookup?_eq_findSome?, lookup?_eq_findSome?, resolve?, chain_write]
  induction h.chain e with
  | nil => simp
  | cons t rest ih =>
    rw [List.findSome?_cons, List.findSome?_cons, List.find?_cons, holds_write,
      get?_bindings_write]
    by_cases hwritten : s = t ∧ key = name.nfc ∧ s < h.scopes.size
    · rw [if_pos hwritten, decide_eq_true hwritten, Bool.true_or]
      simp [hwritten.1, hwritten.2.1]
    · rw [if_neg hwritten, decide_eq_false hwritten, Bool.false_or]
      cases hget : (h.bindings t).get? name.nfc with
      | none =>
        have hholds : h.holds name.nfc t = false := by simp [holds, Dictionary.holds, hget]
        rw [hholds]
        exact ih
      | some v =>
        have hholds : h.holds name.nfc t = true := by simp [holds, Dictionary.holds, hget]
        have hother : ¬ (key = name.nfc ∧ some t = some s) := by
          rintro ⟨hkey, hts⟩
          obtain rfl := Option.some.inj hts
          exact hwritten ⟨rfl, hkey, lt_size_of_holds hholds⟩
        rw [hholds]
        exact (if_neg hother).symm

/-! ### Binding a name and replacing its value -/

/-- A name that a scope holds itself is found there. -/
theorem resolve?_of_hasLocal {h : Heap} {e : ScopeId} {name : Text}
    (hlocal : h.hasLocal e name = true) : h.resolve? e name = some e := by
  obtain ⟨outwards, hchain, -⟩ := h.chain_eq_cons e
  rw [resolve?, hchain]
  exact List.find?_cons_of_pos hlocal

/-- A scope holds the name that is bound in it, and what it held before. -/
theorem hasLocal_set {h : Heap} {e : ScopeId} (he : e < h.scopes.size) (name : Text)
    (value : Value) (other : Text) :
    (h.set e name value).hasLocal e other =
      (decide (name.nfc = other.nfc) || h.hasLocal e other) := by
  rw [hasLocal, set, holds_write]
  simp [he, hasLocal]

/-- In the scope where a name is bound it has the new value, and other names keep theirs. -/
theorem lookup?_set {h : Heap} {e : ScopeId} (he : e < h.scopes.size) (name : Text)
    (value : Value) (other : Text) :
    (h.set e name value).lookup? e other =
      if name.nfc = other.nfc then some value.clone else h.lookup? e other := by
  rw [set, lookup?_write]
  by_cases hname : name.nfc = other.nfc
  · have hlocal : (h.set e name value).hasLocal e other = true := by
      rw [hasLocal_set he, decide_eq_true hname, Bool.true_or]
    rw [if_pos ⟨hname, resolve?_of_hasLocal hlocal⟩, if_pos hname]
  · rw [if_neg fun h => hname h.1, if_neg hname]

/-- Where a name is bound already, a write changes no scope's names. -/
theorem holds_write_of_holds {h : Heap} {s : ScopeId} {key : Text} (hs : h.holds key s = true)
    (value : Value) : (h.write s key value).holds = h.holds := by
  funext key' t
  rw [holds_write]
  by_cases hwritten : s = t ∧ key = key' ∧ s < h.scopes.size
  · obtain ⟨rfl, rfl, -⟩ := hwritten
    rw [hs, Bool.or_true]
  · rw [decide_eq_false hwritten, Bool.false_or]

/-- Where a name is bound already, a write does not change where names are found. -/
theorem resolve?_write_of_holds {h : Heap} {s : ScopeId} {key : Text} (hs : h.holds key s = true)
    (value : Value) (e : ScopeId) (name : Text) :
    (h.write s key value).resolve? e name = h.resolve? e name := by
  rw [resolve?, resolve?, chain_write, holds_write_of_holds hs]

/-- An assignment is a write to the scope where the name is found. -/
theorem assign?_eq_some_iff {h h' : Heap} {e : ScopeId} {name : Text} {value : Value} :
    h.assign? e name value = some h' ↔
      ∃ s, h.resolve? e name = some s ∧ h' = h.write s name.nfc value.clone := by
  rw [assign?, Option.map_eq_some_iff]
  simp only [eq_comm]

/-- An assignment has a result exactly if the name is bound. -/
theorem isSome_assign? (h : Heap) (e : ScopeId) (name : Text) (value : Value) :
    (h.assign? e name value).isSome = h.has e name := by
  rw [assign?, has, Option.isSome_map]

/-- Canonically equivalent spellings are found in one place. -/
theorem resolve?_congr (h : Heap) (e : ScopeId) {name other : Text} (hname : name.nfc = other.nfc) :
    h.resolve? e name = h.resolve? e other := by
  rw [resolve?, resolve?, hname]

/-- After an assignment a name has the new value if it was bound, and other names keep theirs. -/
theorem lookup?_assign (h : Heap) (e : ScopeId) (name : Text) (value : Value) (other : Text) :
    ((h.assign? e name value).getD h).lookup? e other =
      if name.nfc = other.nfc ∧ h.has e name = true then some value.clone
      else h.lookup? e other := by
  cases hresolve : h.resolve? e name with
  | none => simp [assign?, has, hresolve]
  | some s =>
    have hheld : h.holds name.nfc s = true := List.find?_some hresolve
    have hbound : h.has e name = true := by rw [has, hresolve, Option.isSome_some]
    rw [assign?, hresolve, Option.map_some, Option.getD_some, lookup?_write,
      resolve?_write_of_holds hheld]
    by_cases hname : name.nfc = other.nfc
    · rw [if_pos ⟨hname, (h.resolve?_congr e hname).symm.trans hresolve⟩, if_pos ⟨hname, hbound⟩]
    · rw [if_neg fun h => hname h.1, if_neg fun h => hname h.1]

/-- An assignment changes no scope's names. -/
theorem holds_assign (h : Heap) (e : ScopeId) (name : Text) (value : Value) :
    ((h.assign? e name value).getD h).holds = h.holds := by
  cases hresolve : h.resolve? e name with
  | none => simp [assign?, hresolve]
  | some s =>
    have hheld : h.holds name.nfc s = true := List.find?_some hresolve
    rw [assign?, hresolve, Option.map_some, Option.getD_some, holds_write_of_holds hheld]

/-! ### New scopes -/

/-- A scope exists exactly if the heap has it. -/
theorem lt_size_iff {h : Heap} {e : ScopeId} : e < h.scopes.size ↔ (h.scope? e).isSome = true := by
  simp [scope?]

/-- A new scope is empty, and the others are what they were. -/
theorem scope?_new (h : Heap) (outer : Option ScopeId) (s : ScopeId) :
    (h.new outer).2.scope? s = if s = h.scopes.size then some ⟨.empty, outer⟩ else h.scope? s := by
  simp [scope?, new, Array.getElem?_push]

/-- A new scope is empty, and the others hold what they held. -/
@[simp] theorem bindings_new (h : Heap) (outer : Option ScopeId) (s : ScopeId) :
    (h.new outer).2.bindings s = h.bindings s := by
  rw [bindings, bindings, scope?_new]
  by_cases hs : s = h.scopes.size
  · have hnone : h.scope? s = none := by simp [scope?, hs]
    rw [if_pos hs, hnone]
    rfl
  · rw [if_neg hs]

/-- A new scope lies where it was made, and the others lie where they were. -/
theorem outer?_new (h : Heap) (outer : Option ScopeId) (s : ScopeId) :
    (h.new outer).2.outer? s = if s = h.scopes.size then outer else h.outer? s := by
  rw [outer?, outer?, scope?_new]
  split <;> rfl

/-- A new scope lies in the one that is given for it. -/
theorem outer?_new_self (h : Heap) (outer : Option ScopeId) :
    (h.new outer).2.outer? (h.new outer).1 = outer := by
  rw [outer?_new]
  exact if_pos rfl

/-- A new scope binds nothing. -/
theorem bindings_new_self (h : Heap) (outer : Option ScopeId) :
    (h.new outer).2.bindings (h.new outer).1 = .empty := by
  have hself : (h.new outer).1 = h.scopes.size := rfl
  rw [bindings, scope?_new, if_pos hself, Option.map_some, Option.getD_some]

/-- The ways outwards from older scopes do not meet a new one. -/
theorem chain_new (h : Heap) (outer : Option ScopeId) {e : ScopeId} (he : e < h.scopes.size) :
    (h.new outer).2.chain e = h.chain e := by
  induction e using Nat.strongRecOn with
  | ind e ih =>
    rw [chain, chain.eq_def h, outer?_new, if_neg (Nat.ne_of_lt he)]
    cases h.outer? e with
    | none => rfl
    | some o =>
      by_cases ho : o < e
      · simp [ho, ih o ho (Nat.lt_trans ho he)]
      · simp [ho]

/-- A scope that is pushed is one scope more. -/
@[simp] theorem size_push (h : Heap) (e : ScopeId) :
    (h.push e).2.scopes.size = h.scopes.size + 1 := by
  simp [push, new]

/-- A scope that is pushed does not change where the others lie. -/
theorem outer?_push {h : Heap} (e : ScopeId) {s : ScopeId} (hs : s < h.scopes.size) :
    (h.push e).2.outer? s = h.outer? s := by
  rw [push, outer?_new, if_neg (Nat.ne_of_lt hs)]

/-- A scope that is pushed lies in the one it was pushed onto. -/
theorem outer?_push_self (h : Heap) (e : ScopeId) :
    (h.push e).2.outer? (h.push e).1 = some e :=
  h.outer?_new_self (some e)

/-- From a new scope the way leads to the scope around it. -/
theorem chain_push (h : Heap) {e : ScopeId} (he : e < h.scopes.size) :
    (h.push e).2.chain (h.push e).1 = (h.push e).1 :: h.chain e := by
  have hlt : e < (h.push e).1 := he
  rw [chain, outer?_push_self]
  simp only [hlt, if_true]
  rw [push, chain_new h (some e) he]

/-- A new scope holds no names. -/
theorem hasLocal_push (h : Heap) (e : ScopeId) (name : Text) :
    (h.push e).2.hasLocal (h.push e).1 name = false := by
  rw [hasLocal, holds, push, bindings_new_self]
  rfl

/-- In a new scope names have the values that they have around it. -/
theorem lookup?_push (h : Heap) {e : ScopeId} (he : e < h.scopes.size) (name : Text) :
    (h.push e).2.lookup? (h.push e).1 name = h.lookup? e name := by
  have hnone : ((h.push e).2.bindings (h.push e).1).get? name.nfc = none := by
    rw [push, bindings_new_self]
    rfl
  rw [lookup?_eq_findSome?, lookup?_eq_findSome?, chain_push h he, List.findSome?_cons, hnone]
  simp only [push, bindings_new]

end Heap

end Lisplet
