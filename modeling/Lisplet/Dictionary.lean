import Lisplet.Text.Basic

/-!
# Dictionaries

A dictionary maps texts to entries. It lists its entries in ascending order of the keys, each key
once, so that two dictionaries with the same entries are equal.
-/

namespace Lisplet

/-- Entries by their keys. -/
structure Dictionary (α : Type) where
  /-- The keys with their entries. -/
  entries : List (Text × α)
  /-- The keys ascend strictly. -/
  ascending : entries.Pairwise fun a b => a.1.before b.1 = true

namespace Dictionary

variable {α : Type}

instance : CoeOut (Dictionary α) (List (Text × α)) := ⟨entries⟩

/-- The dictionary without entries. -/
def empty : Dictionary α := ⟨[], .nil⟩

instance : Inhabited (Dictionary α) := ⟨empty⟩

/-- A list without items stands for the dictionary without entries. -/
instance {β : Type} : CoeDep (List β) [] (Dictionary α) := ⟨empty⟩

/-- The number of entries. -/
def length (d : Dictionary α) : Nat := d.entries.length

/-- The entry of a key. -/
def get? (d : Dictionary α) (key : Text) : Option α := d.entries.lookup key

/-- Whether a key has an entry. -/
def holds (d : Dictionary α) (key : Text) : Bool := (d.get? key).isSome

/-- The keys, in ascending order. -/
def keys (d : Dictionary α) : List Text := d.entries.map Prod.fst

/-- Ascending entries with that of one key set, in its place. -/
def place (key : Text) (value : α) : List (Text × α) → List (Text × α)
  | [] => [(key, value)]
  | (k, v) :: rest =>
    if k = key then (key, value) :: rest
    else if key.before k then (key, value) :: (k, v) :: rest
    else (k, v) :: place key value rest

/-- No entries come in but the one that is placed. -/
theorem eq_or_mem_of_mem_place {key : Text} {value : α} {entries : List (Text × α)}
    {entry : Text × α} (h : entry ∈ place key value entries) :
    entry = (key, value) ∨ entry ∈ entries := by
  induction entries with
  | nil => exact .inl (List.mem_singleton.mp h)
  | cons first rest ih =>
    rw [place] at h
    split at h
    · rcases List.mem_cons.mp h with hfirst | hrest
      · exact .inl hfirst
      · exact .inr (List.mem_cons_of_mem first hrest)
    · split at h
      · exact List.mem_cons.mp h
      · rcases List.mem_cons.mp h with hfirst | hrest
        · exact .inr (hfirst ▸ List.mem_cons_self)
        · exact (ih hrest).imp_right (List.mem_cons_of_mem first)

/-- Entries still ascend with one more in its place. -/
theorem pairwise_place (key : Text) (value : α) {entries : List (Text × α)}
    (h : entries.Pairwise fun a b => a.1.before b.1 = true) :
    (place key value entries).Pairwise fun a b => a.1.before b.1 = true := by
  induction entries with
  | nil => exact List.pairwise_singleton _ _
  | cons first rest ih =>
    obtain ⟨hfirst, hrest⟩ := List.pairwise_cons.mp h
    rw [place]
    by_cases hkey : first.1 = key
    · rw [if_pos hkey]
      exact List.pairwise_cons.mpr ⟨fun entry hentry => hkey ▸ hfirst entry hentry, hrest⟩
    · rw [if_neg hkey]
      by_cases hbefore : key.before first.1 = true
      · rw [if_pos hbefore]
        refine List.pairwise_cons.mpr ⟨fun entry hentry => ?_, h⟩
        rcases List.mem_cons.mp hentry with rfl | hentry
        · exact hbefore
        · exact Text.before_trans hbefore (hfirst entry hentry)
      · rw [if_neg hbefore]
        refine List.pairwise_cons.mpr ⟨fun entry hentry => ?_, ih hrest⟩
        rcases eq_or_mem_of_mem_place hentry with rfl | hentry
        · exact Text.before_of_not_before (Ne.symm hkey) hbefore
        · exact hfirst entry hentry

/-- The dictionary with the entry of one key set. -/
def insert (key : Text) (value : α) (d : Dictionary α) : Dictionary α :=
  ⟨place key value d.entries, pairwise_place key value d.ascending⟩

/-- The dictionary with the given entries; of two entries with one key the later counts. -/
def ofList (entries : List (Text × α)) : Dictionary α :=
  entries.foldl (fun d entry => d.insert entry.1 entry.2) empty

end Dictionary

end Lisplet
