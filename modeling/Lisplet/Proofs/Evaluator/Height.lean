import Lisplet.Proofs.Equality
import Lisplet.Proofs.Evaluator.Depth

/-!
# How deeply code can nest

The height of an expression is read off its arguments. It bounds the evaluations in progress at one
time, as long as no code is made on the way: an expression in which nothing is evaluated twice does
not reach the limit if its height fits below it. Sums, products and sequences evaluate all their
arguments, so for these the height is exact.
-/

namespace Lisplet

namespace Value

mutual

/-- How deeply an expression nests: one level for itself, and those of its highest argument. -/
def height : Value → Nat
  | .list (_ :: args) => 1 + heightOfAll args
  | _ => 1

/-- The height of the highest of some expressions, if there is one. -/
def heightOfAll : List Value → Nat
  | [] => 0
  | v :: rest => max v.height (heightOfAll rest)

end

/-- The height of expressions is a bound for each of them. -/
theorem heightOfAll_le_iff {args : List Value} {n : Nat} :
    heightOfAll args ≤ n ↔ ∀ a ∈ args, a.height ≤ n := by
  induction args with
  | nil => simp [heightOfAll]
  | cons a rest ih => rw [heightOfAll, Nat.max_le, ih, List.forall_mem_cons]

/-- An expression is one level high at least. -/
theorem height_pos (v : Value) : 0 < v.height := by
  fun_cases height v <;> omega

/-- What applies nothing has only its own level. -/
theorem height_of_not_call {v : Value} (h : ∀ head args, v ≠ .list (head :: args)) :
    v.height = 1 := by
  fun_cases height v with
  | case1 head args => exact absurd rfl (h head args)
  | case2 => rfl

mutual

/-- The applications in a value: all lists with items, at every level, as heads and arguments. -/
def applications : Value → List (Value × List Value)
  | .list items => (items.head?.map fun head => (head, items.tail)).toList ++ applicationsIn items
  | _ => []

/-- The applications in some values. -/
def applicationsIn : List Value → List (Value × List Value)
  | [] => []
  | v :: rest => v.applications ++ applicationsIn rest

end

/-- The applications in one of some values are applications in all of them. -/
theorem mem_applicationsIn {vs : List Value} {v : Value} (hv : v ∈ vs) {a : Value × List Value}
    (ha : a ∈ v.applications) : a ∈ applicationsIn vs := by
  induction vs with
  | nil => cases hv
  | cons u rest ih =>
    rw [applicationsIn, List.mem_append]
    rcases List.mem_cons.mp hv with rfl | hv
    · exact .inl ha
    · exact .inr (ih hv)

/-- What holds of all applications in a list with items holds of the list itself, and of all
applications in its items. -/
theorem forall_applications_cons {P : Value × List Value → Prop} {head : Value} {args : List Value}
    (h : ∀ a ∈ (Value.list (head :: args)).applications, P a) :
    P (head, args) ∧ ∀ v ∈ head :: args, ∀ a ∈ v.applications, P a := by
  rw [applications] at h
  refine ⟨h _ (by simp), fun v hv a ha => h a ?_⟩
  exact List.mem_append_right _ (mem_applicationsIn hv ha)

/-- What is true of everything that applies nothing, and of an application if it is true of the
arguments, is true of all code. The applications may be known to have a property. -/
theorem code_induction {P : Value × List Value → Prop} {motive : Value → Prop}
    (leaf : ∀ e, (∀ head args, e ≠ .list (head :: args)) → motive e)
    (call : ∀ head args, P (head, args) → (∀ a ∈ args, motive a) → motive (.list (head :: args)))
    {e : Value} (hcode : ∀ a ∈ e.applications, P a) : motive e := by
  induction e using list_induction with
  | leaf e hleaf => exact leaf e fun head args => hleaf _
  | list items ih =>
    cases items with
    | nil => exact leaf _ (by simp)
    | cons head args =>
      obtain ⟨hhead, hitems⟩ := forall_applications_cons hcode
      refine call head args hhead fun a ha => ?_
      have hmem : a ∈ head :: args := List.mem_cons_of_mem head ha
      exact ih a hmem (hitems a hmem)

end Value

/-! ### Code that fits below the limit -/

section Fits

variable (p : Policies) (env : ScopeId)

/-- Not to end beyond the limit, as a property that evaluations keep. -/
def unhindered : Invariant p env where
  Good _ := True
  Result _ := True
  Stopped s _ := ∀ l x, s ≠ .failed (.tooDeep l x)

/-- A misuse is no nesting beyond the limit. -/
theorem unhindered_lawful : (unhindered p env).Lawful where
  result_of_isInert _ := trivial
  result_of_lookup? _ _ := trivial
  noted _ _ _ := trivial
  misused error _ := by
    intro l x
    cases p.fatal <;> simp [FatalPolicy.stop]
  defined _ _ _ _ := trivial
  assigned _ _ _ _ := trivial

/-- Counting evaluations does not change how they are stopped. -/
theorem unhindered_nests : (unhindered p env).diagonal.Nests where
  entered hworlds := ⟨congrArg World.entered hworlds.1, trivial⟩
  exited hworlds := ⟨congrArg World.exited hworlds.1, trivial⟩
  stopped hstops := ⟨hstops.1, congrArg World.exited hstops.2.1, hstops.2.2⟩

/-- Code in which nothing is evaluated twice needs no more room than its height. -/
theorem unhindered_evaluateWithin {e : Value}
    (hcode : ∀ a ∈ e.applications, a.1.headText ≠ text "eval")
    {room : Nat} (hroom : e.height ≤ room) :
    (unhindered p env).Keeps (fun _ => True) (Registry.base.evaluateWithin room env e) := by
  have law := (unhindered_lawful p env).diagonal
  rw [Invariant.keeps_iff]
  refine Value.code_induction (P := fun a => a.1.headText ≠ text "eval")
    (motive := fun e => ∀ room, e.height ≤ room → (unhindered p env).diagonal.Simulates
      (fun _ => True) (Registry.base.evaluateWithin room env e)
      (Registry.base.evaluateWithin room env e)) ?leaf ?call hcode room hroom
  case leaf =>
    intro e hleaf room hroom
    obtain ⟨room, rfl⟩ := Nat.exists_eq_succ_of_ne_zero (e.height_pos.trans_le hroom).ne'
    refine Simulation.Simulates.nested (unhindered_nests p env) (law.step_of_apply ?_)
    intro head args he
    exact absurd he (hleaf head args)
  case call =>
    intro head args hname ih room hroom
    obtain ⟨room, rfl⟩ := Nat.exists_eq_succ_of_ne_zero ((Value.height_pos _).trans_le hroom).ne'
    rw [Value.height] at hroom
    have hargs : ∀ a ∈ args, (unhindered p env).diagonal.Simulates (fun _ => True)
        (Registry.base.evaluateWithin room env a) (Registry.base.evaluateWithin room env a) :=
      fun a ha => ih a ha room (Value.heightOfAll_le_iff.mp (by omega) a ha)
    exact Simulation.Simulates.nested (unhindered_nests p env) (law.apply_of_args hname hargs
      (fun _ => law.equal rfl hargs) fun _ => law.fold rfl hargs)

/-- Without code that is made on the way, an expression whose height fits into the room does not end
beyond the limit. -/
theorem evaluate_ne_tooDeep {e : Value} (hcode : ∀ a ∈ e.applications, a.1.headText ≠ text "eval")
    {w : World} (hfits : w.depth + e.height ≤ p.limit) (l : Nat) (x beside : Value) :
    (Registry.base.evaluate env e p w).1 ≠ .failed ⟨.tooDeep l x, beside⟩ := by
  have hroom : e.height ≤ p.limit - w.depth := by omega
  have hends := unhindered_evaluateWithin p env hcode hroom (w := w) trivial
  intro htooDeep
  rw [Registry.evaluate] at htooDeep
  generalize Registry.base.evaluateWithin (p.limit - w.depth) env e p w = out at hends htooDeep
  cases hends with
  | value _ _ => cases htooDeep
  | @stop s _ hstopped =>
    cases s with
    | failed failure =>
      cases htooDeep
      exact hstopped l x rfl
    | aborted failure => cases htooDeep

end Fits

/-! ### Code that evaluates all its arguments -/

namespace Evaluation

variable {α β : Type}

/-- An evaluation ends beyond the limit in every world if a condition holds, and gives a result in
every world if it does not. -/
def Settles (p : Policies) (deep : Prop) (x : Evaluation α) : Prop :=
  ∀ w, (deep → ∃ e w', x p w = (.failed ⟨.tooDeep p.limit e, .nil⟩, w')) ∧
    (¬ deep → ∃ a w', x p w = (.value a, w'))

variable {p : Policies} {deep deep' : Prop}

/-- The condition may be put in other words. -/
theorem Settles.congr {x : Evaluation α} (h : Settles p deep x) (hiff : deep ↔ deep') :
    Settles p deep' x := by
  rwa [← propext hiff]

/-- A given result is never beyond the limit. -/
theorem Settles.pure (a : α) : Settles p False (Pure.pure a : Evaluation α) :=
  fun w => ⟨False.elim, fun _ => ⟨a, w, rfl⟩⟩

/-- One evaluation and then another go beyond the limit if one of them does so. -/
theorem Settles.bind {x : Evaluation α} {f : α → Evaluation β} (h : Settles p deep x)
    (hnext : ∀ a, Settles p deep' (f a)) : Settles p (deep ∨ deep') (x >>= f) := by
  intro w
  by_cases hdeep : deep
  · obtain ⟨e, w', hx⟩ := (h w).1 hdeep
    refine ⟨fun _ => ⟨e, w', ?_⟩, fun hnot => absurd (.inl hdeep) hnot⟩
    exact bind_of_stop (s := .failed (.tooDeep p.limit e)) hx
  · obtain ⟨a, w', hx⟩ := (h w).2 hdeep
    rw [bind_of_value hx, or_iff_right hdeep]
    exact hnext a w'

/-- Counting an evaluation does not change when it settles. -/
theorem Settles.nested {x : Evaluation α} (h : Settles p deep x) : Settles p deep (nested x) := by
  intro w
  rw [nested_apply]
  constructor
  · intro hdeep
    obtain ⟨e, w', hx⟩ := (h w.entered).1 hdeep
    exact ⟨e, w'.exited, by rw [hx]⟩
  · intro hdeep
    obtain ⟨a, w', hx⟩ := (h w.entered).2 hdeep
    exact ⟨a, w'.exited, by rw [hx]⟩

end Evaluation

section Exact

open Evaluation

variable {p : Policies} {env : ScopeId} {self : Evaluator} {args : List Value} {Deep : Value → Prop}

/-- A sequence goes beyond the limit if one of its expressions does so. -/
theorem settles_inOrder (hself : ∀ a ∈ args, Settles p (Deep a) (self env a)) (last : Value) :
    Settles p (∃ a ∈ args, Deep a) (self.inOrder env last args) := by
  induction args generalizing last with
  | nil => exact (Settles.pure last).congr (by simp)
  | cons a rest ih =>
    rw [List.forall_mem_cons] at hself
    exact (hself.1.bind fun v => ih hself.2 v).congr (by simp)

/-- Arguments are combined to a number unless one of them is too deep. -/
theorem settles_combine (hself : ∀ a ∈ args, Settles p (Deep a) (self env a))
    (f : Float → Float → Float) (total : Float) :
    Settles p (∃ a ∈ args, Deep a) (self.combine env f total args) := by
  induction args generalizing total with
  | nil => exact (Settles.pure total).congr (by simp)
  | cons a rest ih =>
    rw [List.forall_mem_cons] at hself
    have hnumber : Settles p (Deep a ∨ False) (self.number env a) :=
      hself.1.bind fun v => .pure v.asNum
    exact (hnumber.bind fun n => ih hself.2 (f total n)).congr (by simp)

/-- A symbol always has a value. -/
theorem settles_valueOfSymbol (name : Text) :
    Settles p False (Registry.valueOfSymbol env name) := by
  intro w
  refine ⟨False.elim, fun _ => ?_⟩
  rw [Registry.valueOfSymbol, heap_bind]
  cases w.heap.lookup? env name with
  | some v => exact ⟨v.clone, w, rfl⟩
  | none => exact ⟨.nil, _, bind_of_value (note_apply ..)⟩

/-- Sums, products and sequences go beyond the limit if one of their arguments does so. -/
theorem settles_apply (hself : ∀ a ∈ args, Settles p (Deep a) (self env a)) {name : Text}
    (hname : name ∈ [text "+", text "*", text "do"]) :
    Settles p (∃ a ∈ args, Deep a) (Registry.base.apply self env name args) := by
  simp only [List.mem_cons, List.not_mem_nil, or_false] at hname
  rcases hname with rfl | rfl | rfl
  · exact ((settles_combine hself _ 0.0).bind fun n => .pure (Value.num n)).congr (by simp)
  · exact ((settles_combine hself _ 1.0).bind fun n => .pure (Value.num n)).congr (by simp)
  · exact settles_inOrder hself .nil

/-- Code made of sums, products and sequences goes beyond the limit exactly if it is higher than
there is room. -/
theorem settles_evaluateWithin {e : Value}
    (hcode : ∀ a ∈ e.applications, a.1.headText ∈ [text "+", text "*", text "do"])
    (room : Nat) : Settles p (room < e.height) (Registry.base.evaluateWithin room env e) := by
  refine Value.code_induction (P := fun a => a.1.headText ∈ [text "+", text "*", text "do"])
    (motive := fun e => ∀ room, Settles p (room < e.height)
      (Registry.base.evaluateWithin room env e)) ?leaf ?call hcode room
  case leaf =>
    intro e hleaf room
    cases room with
    | zero => exact fun w => ⟨fun _ => ⟨e, w, rfl⟩, fun hnot => absurd e.height_pos hnot⟩
    | succ room =>
      have hheight : e.height = 1 := Value.height_of_not_call hleaf
      have hstep : Settles p False
          (Registry.base.step (Registry.base.evaluateWithin room) env e) := by
        cases e with
        | sym name => exact settles_valueOfSymbol name
        | list items =>
          cases items with
          | nil => exact .pure _
          | cons head args => exact absurd rfl (hleaf head args)
        | _ => exact .pure _
      exact (hstep.congr (by simp [hheight])).nested
  case call =>
    intro head args hname ih room
    cases room with
    | zero => exact fun w => ⟨fun _ => ⟨_, w, rfl⟩, fun hnot => absurd (Value.height_pos _) hnot⟩
    | succ room =>
      have hargs : ∀ a ∈ args, Settles p (room < a.height)
          (Registry.base.evaluateWithin room env a) := fun a ha => ih a ha room
      have hdeep : (∃ a ∈ args, room < a.height) ↔
          room + 1 < (Value.list (head :: args)).height := by
        rw [Value.height, ← not_iff_not, not_exists]
        simp only [not_and, Nat.not_lt, ← Value.heightOfAll_le_iff]
        omega
      exact ((settles_apply hargs hname).congr hdeep).nested

end Exact

/-- The limit does not reject what is shallow enough. Where nothing is evaluated twice, an
expression whose height fits below the limit does not end beyond it. Code made of literals, symbols,
sums, products and sequences ends beyond the limit exactly if its height does not fit. -/
theorem tooDeep_of_height (p : Policies) (env : ScopeId) (e : Value) (w : World) :
    ((∀ a ∈ e.applications, a.1.headText ≠ text "eval") →
      w.depth + e.height ≤ p.limit →
      ∀ l x beside, (Registry.base.evaluate env e p w).1 ≠ .failed ⟨.tooDeep l x, beside⟩) ∧
    ((∀ a ∈ e.applications, a.1.headText ∈ [text "+", text "*", text "do"]) →
      ((∃ l x beside, (Registry.base.evaluate env e p w).1 = .failed ⟨.tooDeep l x, beside⟩) ↔
        p.limit < w.depth + e.height)) := by
  refine ⟨fun hcode hfits => evaluate_ne_tooDeep p env hcode hfits, ?_⟩
  intro hcode
  rw [Registry.evaluate]
  have hsettles : Evaluation.Settles p (p.limit - w.depth < e.height)
      (Registry.base.evaluateWithin (p.limit - w.depth) env e) := settles_evaluateWithin hcode _
  have hpos := e.height_pos
  constructor
  · rintro ⟨l, x, beside, htooDeep⟩
    by_contra hfits
    obtain ⟨v, w', hvalue⟩ := (hsettles w).2 (by omega)
    rw [hvalue] at htooDeep
    cases htooDeep
  · intro hdeep
    obtain ⟨x, w', htooDeep⟩ := (hsettles w).1 (by omega)
    exact ⟨p.limit, x, .nil, by rw [htooDeep]⟩

/-- A conditional that needs all the room there is, and a sum that needs more. -/
theorem tooDeep_of_height_conditional :
    (∀ l x beside, (Registry.base.evaluate 0
      (.list [.sym (text "if"), .sym (text "x"), .nil, .list [.sym (text "do"), .bool true]])
      { Policies.usual .warn with limit := 3 } (Session.new (.usual .warn)).world).1 ≠
        .failed ⟨.tooDeep l x, beside⟩) ∧
    ∃ l x beside, (Registry.base.evaluate 0
      (.list [.sym (text "+"), .list [.sym (text "*"), .sym (text "x")], .nil])
      { Policies.usual .warn with limit := 2 } (Session.new (.usual .warn)).world).1 =
        .failed ⟨.tooDeep l x, beside⟩ := by
  constructor
  · exact (tooDeep_of_height _ 0 _ _).1 (by decide) (by decide)
  · exact ((tooDeep_of_height _ 0 _ _).2 (by decide)).mpr (by decide)

end Lisplet
