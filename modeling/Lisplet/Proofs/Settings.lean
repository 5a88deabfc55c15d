import Mathlib.Data.List.Basic
import Lisplet.Config.Load
import Lisplet.Proofs.Bindings
import Lisplet.Proofs.Store

/-!
# Seeding an environment

The data of a configuration have values if everything in them, through all levels of lists, is of a
kind that the language knows. Otherwise the item that comes first is refused, and the places that
lead to it are given. The bindings are made in ascending order of their names. If all data have
values, each canonical name gets the value of its greatest spelling. If not, the least name that is
given something without a value is refused, and what was bound before is what the smaller names
alone would have bound.
-/

namespace Lisplet

/-- The entries that pass a test. -/
def Dictionary.filter {α : Type} (p : Text × α → Bool) (d : Dictionary α) : Dictionary α :=
  ⟨d.entries.filter p, d.ascending.filter p⟩

namespace Config

/-! ### Data and their values -/

namespace Datum

/-- Whether data of this kind can have a value. -/
def isKnown : Datum → Bool
  | .null | .bool _ | .int _ | .float _ | .str _ | .list _ => true
  | _ => false

/-- The item that some places lead to, the first of which is in the outermost list. -/
def item? : List Nat → Datum → Option Datum
  | [], d => some d
  | i :: path, .list items => items[i]?.bind (item? path)
  | _ :: _, _ => none

/-- A datum is supported if all of its items, through every level of lists, are of known kinds. -/
def Supported (d : Datum) : Prop := ∀ path x, d.item? path = some x → x.isKnown = true

/-- The values that data stand for. Lists keep their structure and order. -/
inductive Denotes : Datum → Value → Prop
  | null : Denotes .null .nil
  | bool (b : Bool) : Denotes (.bool b) (.bool b)
  | int (n : Int) : Denotes (.int n) (.num (numberOf n))
  | float (x : Float) : Denotes (.float x) (.num x)
  | str (t : Text) : Denotes (.str t) (.str t)
  | nil : Denotes (.list []) (.list [])
  | cons {d : Datum} {v : Value} {ds : List Datum} {vs : List Value} :
    Denotes d v → Denotes (.list ds) (.list vs) → Denotes (.list (d :: ds)) (.list (v :: vs))

end Datum

/-- What is refused in a datum: its leftmost item of an unknown kind. -/
structure Unsupported.IsLeftmost (u : Unsupported) (d : Datum) : Prop where
  /-- The places lead to the item. -/
  item?_eq : d.item? u.path = some u.datum
  /-- The item is of an unknown kind. -/
  unknown : u.datum.isKnown = false
  /-- No item of an unknown kind lies further to the left. -/
  least : ∀ path x, d.item? path = some x → x.isKnown = false → ¬ List.Lex (· < ·) path u.path

namespace Datum

mutual

/-- A datum is translated to the value that it stands for. -/
theorem denotes_of_toValue (d : Datum) {v : Value} (h : d.toValue = .ok v) : d.Denotes v := by
  cases d with
  | null => cases h; exact .null
  | bool b => cases h; exact .bool b
  | int n => cases h; exact .int n
  | float x => cases h; exact .float x
  | str t => cases h; exact .str t
  | list items =>
    rw [toValue] at h
    cases hitems : itemValues 0 items with
    | error u => simp [hitems] at h
    | ok vs =>
      simp only [hitems, Except.ok.injEq] at h
      subst h
      exact denotes_of_itemValues items hitems
  | _ => cases h

/-- Items are translated to the values that they stand for, wherever they begin in their list. -/
theorem denotes_of_itemValues (items : List Datum) {place : Nat} {vs : List Value}
    (h : itemValues place items = .ok vs) : Denotes (.list items) (.list vs) := by
  cases items with
  | nil => cases h; exact .nil
  | cons d rest =>
    rw [itemValues] at h
    cases hd : d.toValue with
    | error u => simp [hd] at h
    | ok v =>
      cases hrest : itemValues (place + 1) rest with
      | error u => simp [hd, hrest] at h
      | ok ws =>
        simp only [hd, hrest, Except.ok.injEq] at h
        subst h
        exact .cons (denotes_of_toValue d hd) (denotes_of_itemValues rest hrest)

end

/-- What stands for a value is supported. -/
theorem Denotes.supported {d : Datum} {v : Value} (h : d.Denotes v) : d.Supported := by
  induction h with
  | nil =>
    rintro (_ | ⟨i, path⟩) x hx
    · cases hx; rfl
    · simp [item?] at hx
  | cons _ _ ihd ihds =>
    rintro (_ | ⟨_ | i, path⟩) x hx
    · cases hx; rfl
    · exact ihd path x hx
    · exact ihds (i :: path) x hx
  | _ =>
    rintro (_ | ⟨i, path⟩) x hx <;> cases hx
    rfl

end Datum

/-- Nothing of an unknown kind is found in front of the first item of a list, so what is leftmost in
this item is leftmost in the list. -/
theorem Unsupported.IsLeftmost.head {u : Unsupported} {d : Datum} (h : u.IsLeftmost d)
    (rest : List Datum) : Unsupported.IsLeftmost ⟨0 :: u.path, u.datum⟩ (.list (d :: rest)) where
  item?_eq := h.item?_eq
  unknown := h.unknown
  least := by
    rintro (_ | ⟨_ | i, path⟩) x hx hunknown hleft
    · cases hx
      cases hunknown
    · cases hleft with
      | rel hlt => exact Nat.not_lt_zero _ hlt
      | cons hpath => exact h.least path x hx hunknown hpath
    · cases hleft with
      | rel hlt => exact Nat.not_lt_zero _ hlt

/-- A supported item in front moves what is leftmost by one place. -/
theorem Unsupported.IsLeftmost.tail {i : Nat} {path : List Nat} {x d : Datum} {rest : List Datum}
    (h : Unsupported.IsLeftmost ⟨i :: path, x⟩ (.list rest)) (hd : d.Supported) :
    Unsupported.IsLeftmost ⟨(i + 1) :: path, x⟩ (.list (d :: rest)) where
  item?_eq := h.item?_eq
  unknown := h.unknown
  least := by
    rintro (_ | ⟨_ | j, path'⟩) y hy hunknown hleft
    · cases hy
      cases hunknown
    · have hknown := hd path' y hy
      rw [hunknown] at hknown
      cases hknown
    · refine h.least (j :: path') y hy hunknown ?_
      cases hleft with
      | rel hlt => exact .rel (Nat.lt_of_succ_lt_succ hlt)
      | cons hpath => exact .cons hpath

namespace Datum

mutual

/-- A datum that is not translated is refused for its leftmost item of an unknown kind. -/
theorem isLeftmost_of_toValue (d : Datum) {u : Unsupported} (h : d.toValue = .error u) :
    u.IsLeftmost d := by
  cases d with
  | null | bool | int | float | str => cases h
  | list items =>
    rw [toValue] at h
    cases hitems : itemValues 0 items with
    | ok vs => simp [hitems] at h
    | error u' =>
      simp only [hitems, Except.error.injEq] at h
      subst h
      obtain ⟨i, path, hpath, hleftmost⟩ := isLeftmost_of_itemValues items hitems
      rw [Nat.zero_add] at hpath
      rwa [← hpath] at hleftmost
  | _ =>
    cases h
    refine ⟨rfl, rfl, ?_⟩
    rintro path x - - hleft
    cases hleft

/-- Items are refused for the leftmost of them, which is counted from where they begin. -/
theorem isLeftmost_of_itemValues (items : List Datum) {place : Nat} {u : Unsupported}
    (h : itemValues place items = .error u) :
    ∃ i path, u.path = (place + i) :: path ∧
      Unsupported.IsLeftmost ⟨i :: path, u.datum⟩ (.list items) := by
  cases items with
  | nil => cases h
  | cons d rest =>
    rw [itemValues] at h
    cases hd : d.toValue with
    | error u' =>
      simp only [hd, Except.error.injEq] at h
      subst h
      exact ⟨0, u'.path, rfl, (isLeftmost_of_toValue d hd).head rest⟩
    | ok v =>
      cases hrest : itemValues (place + 1) rest with
      | ok ws => simp [hd, hrest] at h
      | error u' =>
        simp only [hd, hrest, Except.error.injEq] at h
        subst h
        obtain ⟨i, path, hpath, hleftmost⟩ := isLeftmost_of_itemValues rest hrest
        have hsupported := (denotes_of_toValue d hd).supported
        exact ⟨i + 1, path, by rw [hpath]; congr 1; omega, hleftmost.tail hsupported⟩

end

end Datum

/-! ### Bindings -/

namespace Settings

variable {bindings : Dictionary Datum} {entries front back : List (Text × Datum)} {e : ScopeId}
  {h : Heap}

/-- The names of some entries with the values of their data, as far as they have values. -/
def values (entries : List (Text × Datum)) : List (Text × Value) :=
  entries.filterMap fun entry => entry.2.toValue.toOption.map fun v => (entry.1, v)

/-- The value that some entries give to a canonical name: that of the datum under the greatest
spelling of the name. -/
def Gives (entries : List (Text × Datum)) (key : Text) (v : Value) : Prop :=
  ∃ name d, (name, d) ∈ entries ∧ name.nfc = key ∧ d.Denotes v ∧
    ∀ entry ∈ entries, entry.1.nfc = key → entry.1 = name ∨ entry.1.before name = true

end Settings

namespace Settings

/-- Settings that can be put into force. -/
structure Valid (s : Settings) : Prop where
  /-- The log level has a known spelling, if one is chosen. -/
  level : ∃ level, s.level? = .ok level
  /-- The fatal policy has a known spelling. -/
  fatal : ∃ policy, FatalPolicy.parse s.fatalPolicy = .ok policy
  /-- The seed policy has a known spelling. -/
  seed : ∃ policy, SeedPolicy.parse s.seedPolicy = .ok policy
  /-- All data have values. -/
  supported : ∀ entry ∈ s.bindings.entries, entry.2.Supported

end Settings

end Config

end Lisplet
