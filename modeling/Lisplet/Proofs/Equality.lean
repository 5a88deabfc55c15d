import Lisplet.Proofs.Decimal.Bits
import Lisplet.Proofs.Environment
import Lisplet.Proofs.Evaluator.Dispatch
import Lisplet.Proofs.Evaluator.Inert

/-!
# Equality of values

Equality of values is symmetric and transitive. A value equals itself, and its copy, exactly if no
number that it reaches through lists is a number that is not a number. Comparing all further
arguments with the first is therefore comparing any two of them, so the order of the arguments does
not matter.
-/

namespace Lisplet

namespace Value

/-- Induction over the lists of a value, in which a function is a leaf. -/
@[elab_as_elim]
theorem list_induction {motive : Value → Prop}
    (leaf : ∀ v : Value, (∀ items, v ≠ .list items) → motive v)
    (list : ∀ items : List Value, (∀ v ∈ items, motive v) → motive (.list items)) (v : Value) :
    motive v := by
  cases v with
  | list items => exact list items fun v hv => list_induction leaf list v
  | _ => exact leaf _ (by simp)
termination_by sizeOf v
decreasing_by
  have hitem := List.sizeOf_lt_of_mem hv
  simp only [Value.list.sizeOf_spec]
  omega

/-! ### Equal values -/

/-- How two values are equal. -/
inductive Alike : Value → Value → Prop
  /-- Both are absent. -/
  | absent {a b : Value} (ha : a.isNil = true) (hb : b.isNil = true) : Alike a b
  /-- Both are numbers, and are equal as numbers. -/
  | num {m n : Float} (h : m == n) : Alike (.num m) (.num n)
  | str (t : Text) : Alike (.str t) (.str t)
  | sym (name : Text) : Alike (.sym name) (.sym name)
  | atom (name : Text) : Alike (.atom name) (.atom name)
  | bool (b : Bool) : Alike (.bool b) (.bool b)
  /-- Both are lists, with equal items in the same places. -/
  | list {as bs : List Value} (h : List.Forall₂ (fun a b => a.equals b = true) as bs) :
    Alike (.list as) (.list bs)
  /-- Both are the same function. -/
  | func (identity : Nat) (params body params' body' : Value) :
    Alike (.func identity params body) (.func identity params' body')

/-- Lists are compared item by item. -/
theorem equalItems_iff {as bs : List Value} :
    equalItems as bs = true ↔ List.Forall₂ (fun a b => a.equals b = true) as bs := by
  induction as generalizing bs with
  | nil => cases bs <;> simp [equalItems]
  | cons a as ih => cases bs <;> simp [equalItems, ih]

/-- Absence equals absence only. -/
theorem equals_of_isNil {a : Value} (ha : a.isNil = true) (b : Value) : a.equals b = b.isNil := by
  cases a with
  | nil | untyped => rw [equals]
  | _ => cases ha

/-- The comparison finds the values that are alike. -/
theorem equals_iff {a b : Value} : a.equals b = true ↔ Alike a b := by
  constructor
  · intro h
    fun_cases equals a b with
    | case1 | case2 => exact .absent rfl h
    | case3 m n => exact .num h
    | case4 t t' => exact eq_of_beq h ▸ .str t
    | case5 name name' => exact eq_of_beq h ▸ .sym name
    | case6 name name' => exact eq_of_beq h ▸ .atom name
    | case7 b b' => exact eq_of_beq h ▸ .bool b
    | case8 as bs => exact .list (equalItems_iff.mp h)
    | case9 identity params body identity' params' body' =>
      exact eq_of_beq h ▸ .func identity params body params' body'
    | case10 =>
      rw [equals] at h
      · cases h
      all_goals assumption
  · intro h
    cases h with
    | absent ha hb => rw [equals_of_isNil ha, hb]
    | num h => exact h
    | list h => exact equalItems_iff.mpr h
    | _ => simp [equals]

/-- Equality is symmetric. -/
theorem equals_symm {a b : Value} (h : a.equals b = true) : b.equals a = true := by
  induction a using list_induction generalizing b with
  | leaf a hleaf =>
    rw [equals_iff] at h ⊢
    cases h with
    | absent ha hb => exact .absent hb ha
    | num h => exact .num (Decimal.beq_symm h)
    | list _ => exact absurd rfl (hleaf _)
    | func identity params body params' body' => exact .func identity params' body' params body
    | str t => exact .str t
    | sym name => exact .sym name
    | atom name => exact .atom name
    | bool b => exact .bool b
  | list as ih =>
    rw [equals_iff] at h ⊢
    cases h with
    | absent ha _ => cases ha
    | @list _ bs hitems =>
      refine .list ?_
      induction hitems with
      | nil => exact .nil
      | cons hab _ hrest =>
        rw [List.forall_mem_cons] at ih
        exact .cons (ih.1 hab) (hrest ih.2)

/-- Equality is transitive. -/
theorem equals_trans {a b c : Value} (hab : a.equals b = true) (hbc : b.equals c = true) :
    a.equals c = true := by
  -- The first value decides the kind of the other two, so the induction is on its lists.
  induction a using list_induction generalizing b c with
  | leaf a hleaf =>
    have hbc' := equals_iff.mp hbc
    rw [equals_iff] at hab ⊢
    cases hab with
    | absent ha hb => exact .absent ha (equals_of_isNil hb c ▸ hbc)
    | num h =>
      cases hbc' with
      | absent hb _ => cases hb
      | num h' => exact .num (Decimal.beq_trans h h')
    | list _ => exact absurd rfl (hleaf _)
    | func identity params body params' body' =>
      cases hbc' with
      | absent hb _ => cases hb
      | func _ _ _ params'' body'' => exact .func identity params body params'' body''
    | _ => exact hbc'
  | list as ih =>
    rw [equals_iff] at hab hbc ⊢
    cases hab with
    | absent ha _ => cases ha
    | list hitems =>
      cases hbc with
      | absent hb _ => cases hb
      | @list _ cs hitems' =>
        refine .list ?_
        induction hitems generalizing cs with
        | nil =>
          cases hitems'
          exact .nil
        | cons hab _ hrest =>
          rw [List.forall_mem_cons] at ih
          cases hitems' with
          | cons hbc hrest' => exact .cons (ih.1 hab hbc) (hrest ih.2 hrest')

/-- The comparison goes both ways. -/
theorem equals_comm (a b : Value) : a.equals b = b.equals a :=
  Bool.eq_iff_iff.mpr ⟨equals_symm, equals_symm⟩

/-! ### Values that equal themselves -/

/-- A value reaches itself, and what its items reach if it is a list. -/
inductive Reaches : Value → Value → Prop
  | refl (v : Value) : Reaches v v
  | item {items : List Value} {v w : Value} (hv : v ∈ items) (h : Reaches v w) :
    Reaches (.list items) w

/-- A leaf reaches itself only. -/
theorem reaches_leaf_iff {v : Value} (hleaf : ∀ items, v ≠ .list items) {w : Value} :
    v.Reaches w ↔ v = w := by
  constructor
  · intro h
    cases h with
    | refl => rfl
    | item _ _ => exact absurd rfl (hleaf _)
  · rintro rfl
    exact .refl v

/-- A value equals itself exactly if all numbers that it reaches are numbers. -/
theorem equals_self_iff (v : Value) :
    v.equals v = true ↔ ∀ n, v.Reaches (.num n) → n.isNaN = false := by
  induction v using list_induction with
  | leaf v hleaf =>
    simp only [reaches_leaf_iff hleaf]
    cases v with
    | num n => simp [equals]
    | list items => exact absurd rfl (hleaf items)
    | _ => simp [equals, isNil]
  | list items ih =>
    have hitems : (Value.list items).equals (.list items) = true ↔
        ∀ v ∈ items, v.equals v = true := equalItems_iff.trans List.forall₂_same
    rw [hitems]
    constructor
    · intro hself n hn
      cases hn with
      | item hv hn => exact (ih _ hv).mp (hself _ hv) n hn
    · intro hnum v hv
      exact (ih v hv).mpr fun n hn => hnum n (.item hv hn)

/-- What counts as absence equals the same values as absence. -/
theorem equals_settled (a v : Value) : a.equals (if v.isNil then .nil else v) = a.equals v := by
  split_ifs with hv
  · rw [equals_comm, equals_comm a, equals_of_isNil hv, equals_of_isNil rfl]
  · rfl

/-- Any two of some values are equal exactly if all further ones equal the first. -/
theorem pairwise_equals_cons_iff (v : Value) (rest : List Value) :
    (v :: rest).Pairwise (fun a b => a.equals b = true) ↔ ∀ b ∈ rest, v.equals b = true := by
  rw [List.pairwise_cons, and_iff_left_iff_imp]
  intro hfirst
  apply List.pairwise_of_forall_mem_list
  intro a ha b hb
  exact equals_trans (equals_symm (hfirst a ha)) (hfirst b hb)

end Value

/-! ### Comparing arguments -/

section Comparison

variable (r : Registry) (env : ScopeId) (p : Policies)

/-- Inert arguments are compared as they are. -/
theorem allEqual_of_isInert {args : List Value} (hargs : ∀ v ∈ args, v.isInert = true)
    (room : Nat) (head : Value) (w : World) :
    (Operation.allEqual (r.evaluateWithin (room + 1)) env head args p w).1 =
      .value (args.all head.equals) := by
  induction args generalizing w with
  | nil => rfl
  | cons v rest ih =>
    rw [List.forall_mem_cons] at hargs
    have hv : r.evaluateWithin (room + 1) env v p w = (.value (if v.isNil then .nil else v), _) :=
      Prod.ext (evaluateWithin_of_isInert hargs.1 r room w) rfl
    rw [Operation.allEqual, Evaluation.bind_of_value hv, Value.equals_settled, List.all_cons]
    cases head.equals v with
    | true => exact ih hargs.2 _
    | false => rfl

/-- The first of several inert arguments is compared as it is, evaluated or not. -/
theorem seedValue_of_isInert {v : Value} (hv : v.isInert = true) (room : Nat) (w : World) :
    ∃ head w', Operation.seedValue (r.evaluateWithin (room + 1)) env v p w = (.value head, w') ∧
      head.equals = v.equals := by
  rw [Operation.seedValue, Evaluation.policies_bind]
  cases p.seed with
  | raw => exact ⟨v, w, rfl, rfl⟩
  | evaluated =>
    refine ⟨_, _, Prod.ext (evaluateWithin_of_isInert hv r room w) rfl, ?_⟩
    funext b
    rw [Value.equals_comm, Value.equals_settled, Value.equals_comm]

/-- Arguments that evaluate to themselves are compared as they are, all pairs of them. -/
theorem equal_of_isInert {args : List Value} (hargs : ∀ v ∈ args, v.isInert = true)
    (room : Nat) (w : World) :
    (Operation.equal (r.evaluateWithin (room + 1)) env args p w).1 =
      .value (.bool (decide (args.Pairwise fun a b => a.equals b = true))) := by
  cases args with
  | nil => rfl
  | cons v rest =>
    rw [List.forall_mem_cons] at hargs
    obtain ⟨head, w', hhead, hequals⟩ := seedValue_of_isInert r env p hargs.1 room w
    have hrest : Operation.allEqual (r.evaluateWithin (room + 1)) env head rest p w' =
        (.value (rest.all v.equals), _) :=
      Prod.ext (hequals ▸ allEqual_of_isInert r env p hargs.2 room head w') rfl
    have hall : rest.all v.equals =
        decide ((v :: rest).Pairwise fun a b => a.equals b = true) := by
      rw [Bool.eq_iff_iff, List.all_eq_true, decide_eq_true_iff, Value.pairwise_equals_cons_iff]
    rw [Operation.equal, Evaluation.bind_of_value hhead, Evaluation.bind_of_value hrest, hall]
    rfl

variable {r}

/-- A call of the comparison compares one level deeper. -/
theorem evaluateWithin_equal (hequal : r.get? (text "=") = some Operation.equal)
    (args : List Value) (room : Nat) (w : World) :
    (r.evaluateWithin (room + 1) env (.list (.sym (text "=") :: args)) p w).1 =
      (Operation.equal (r.evaluateWithin room) env args p w.entered).1 := by
  have happly : r.apply (r.evaluateWithin room) env (text "=") args =
      Operation.equal (r.evaluateWithin room) env args := by
    rw [Registry.apply_of_not_special r _ env (by decide), hequal, Option.getD_some]
  rw [Registry.evaluateWithin_succ_apply, Registry.step, Value.headText, happly]

/-- Without room for them, two arguments cannot be compared. -/
theorem evaluate_equal_tooDeep (hequal : r.get? (text "=") = some Operation.equal) (a b : Value)
    (rest : List Value) {w : World} (hdepth : p.limit < w.depth + 2) :
    ∃ e, (r.evaluate env (.list (.sym (text "=") :: a :: b :: rest)) p w).1 =
      .failed ⟨.tooDeep p.limit e, .nil⟩ := by
  rw [Registry.evaluate]
  obtain hroom | hroom : p.limit - w.depth = 0 ∨ p.limit - w.depth = 0 + 1 := by omega
  · rw [hroom]
    exact ⟨_, rfl⟩
  · rw [hroom, evaluateWithin_equal env p hequal, Operation.equal]
    cases hseed : p.seed with
    | raw =>
      have hfirst : Operation.seedValue (r.evaluateWithin 0) env a p w.entered =
          (.value a, w.entered) := by
        rw [Operation.seedValue, Evaluation.policies_bind, hseed]
        rfl
      rw [Evaluation.bind_of_value hfirst]
      exact ⟨b, rfl⟩
    | evaluated =>
      have hfirst : Operation.seedValue (r.evaluateWithin 0) env a p w.entered =
          (Stop.outcome (.failed (.tooDeep p.limit a)), w.entered) := by
        rw [Operation.seedValue, Evaluation.policies_bind, hseed]
        rfl
      rw [Evaluation.bind_of_stop hfirst]
      exact ⟨a, rfl⟩

/-- With room for the arguments, the comparison tells whether all pairs of them are equal. -/
theorem evaluate_equal_of_isInert (hequal : r.get? (text "=") = some Operation.equal)
    {args : List Value} (hargs : ∀ v ∈ args, v.isInert = true) {w : World}
    (hdepth : w.depth + 2 ≤ p.limit) :
    (r.evaluate env (.list (.sym (text "=") :: args)) p w).1 =
      .value (.bool (decide (args.Pairwise fun a b => a.equals b = true))) := by
  obtain ⟨room, hroom⟩ : ∃ room, p.limit - w.depth = room + 1 + 1 :=
    ⟨p.limit - w.depth - 2, by omega⟩
  rw [Registry.evaluate, hroom, evaluateWithin_equal env p hequal]
  exact equal_of_isInert r env p hargs room w.entered

end Comparison

/-- Equality is a partial equivalence, and only what reaches a number that is not a number does not
equal itself. A comparison of inert arguments tells whether any two of them are equal, in whatever
order they stand; two or more arguments are compared unless evaluation nests too deeply. -/
theorem equals_partialEquivalence :
    (∀ a b : Value, a.equals b = b.equals a) ∧
    (∀ a b c : Value, a.equals b = true → b.equals c = true → a.equals c = true) ∧
    (∀ v : Value, v.equals v.clone = v.equals v ∧
      (v.equals v = true ↔ ∀ n, v.Reaches (.num n) → n.isNaN = false)) ∧
    ∀ (r : Registry) (args : List Value) (env : ScopeId) (p : Policies) (w : World),
      r.get? (text "=") = some Operation.equal → (∀ v ∈ args, v.isInert = true) →
      2 ≤ args.length →
      (w.depth + 2 ≤ p.limit →
        (r.evaluate env (.list (.sym (text "=") :: args)) p w).1 =
          .value (.bool (decide (args.Pairwise fun a b => a.equals b = true))) ∧
        ∀ args', args.Perm args' →
          (r.evaluate env (.list (.sym (text "=") :: args')) p w).1 =
            (r.evaluate env (.list (.sym (text "=") :: args)) p w).1) ∧
      (p.limit < w.depth + 2 → ∃ e,
        (r.evaluate env (.list (.sym (text "=") :: args)) p w).1 =
          .failed ⟨.tooDeep p.limit e, .nil⟩) := by
  refine ⟨Value.equals_comm, fun a b c => Value.equals_trans, fun v => ?_, ?_⟩
  · exact ⟨by rw [Value.clone_eq], Value.equals_self_iff v⟩
  · intro r args env p w hequal hargs htwo
    refine ⟨fun hdepth => ?_, fun hdepth => ?_⟩
    · have heval := evaluate_equal_of_isInert env p hequal hargs hdepth
      refine ⟨heval, fun args' hperm => ?_⟩
      have hargs' : ∀ v ∈ args', v.isInert = true :=
        fun v hv => hargs v (hperm.mem_iff.mpr hv)
      have hpairwise := hperm.pairwise_iff (R := fun a b => a.equals b = true) Value.equals_symm
      rw [heval, evaluate_equal_of_isInert env p hequal hargs' hdepth]
      simp only [hpairwise]
    · match args, htwo with
      | a :: b :: rest, _ => exact evaluate_equal_tooDeep env p hequal a b rest hdepth

/-- The two zeros are equal in both orders, and a list with a number that is not a number does not
equal its copy. -/
theorem equals_partialEquivalence_zeros :
    (Registry.base.evaluate 0 (.list [.sym (text "="), .num 0, .num (-0)]) (.usual .warn)
      (Session.new (.usual .warn)).world).1 = .value (.bool true) ∧
    (Registry.base.evaluate 0 (.list [.sym (text "="), .num (-0), .num 0]) (.usual .warn)
      (Session.new (.usual .warn)).world).1 = .value (.bool true) ∧
    (Value.list [.str [], .num Float.nan]).equals (Value.list [.str [], .num Float.nan]).clone =
      false := by
  obtain ⟨-, -, hself, hcompare⟩ := equals_partialEquivalence
  obtain ⟨htrue, hperm⟩ := (hcompare Registry.base [.num 0, .num (-0)] 0 (.usual .warn)
    (Session.new (.usual .warn)).world rfl (by decide) (by decide)).1 (by decide)
  have hpairwise : decide ([Value.num 0, .num (-0)].Pairwise fun a b => a.equals b = true) =
      true := by decide
  rw [hpairwise] at htrue
  refine ⟨htrue, (hperm _ (.swap _ _ _)).trans htrue, ?_⟩
  rw [(hself _).1, ← Bool.not_eq_true, (hself _).2]
  intro hnumbers
  have hnan := hnumbers Float.nan (.item (by simp) (.refl _))
  simp at hnan

end Lisplet
