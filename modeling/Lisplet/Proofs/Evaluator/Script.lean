import Lisplet.Proofs.Evaluator.Delivery
import Lisplet.Proofs.Reader.Brackets

/-!
# Scripts and blocks

A script in braces is a block of the same forms. The block counts as one more evaluation around
them, so under a limit that is larger by one it does what the script does.
-/

namespace Lisplet

/-! ### One level deeper -/

/-- How an evaluation ends under a limit and under the next one. -/
inductive Deepened (limit : Nat) : Stop → Stop → Prop
  | misuse (policy : FatalPolicy) (error : FormError) :
    Deepened limit (policy.stop (.misuse error)) (policy.stop (.misuse error))
  | tooDeep (e : Value) :
    Deepened limit (.failed (.tooDeep limit e)) (.failed (.tooDeep (limit + 1) e))

/-- A limit and the next one differ only in how an evaluation beyond them ends. -/
theorem matching_deepened (p : Policies) (limit : Nat) :
    { p with limit }.Matching { p with limit := limit + 1 } (Deepened limit) where
  seed_eq := rfl
  level_eq := rfl
  misuse error := .misuse p.fatal error
  tooDeep e := .tooDeep e

/-- Every form of a sequence has the room that the first one has. -/
theorem inOrder_evaluate (p : Policies) (env : ScopeId) (forms : List Value) (w : World) :
    Registry.base.evaluate.inOrder env .nil forms p w =
      (Registry.base.evaluateWithin (p.limit - w.depth)).inOrder env .nil forms p w := by
  have hroom : ∀ e u, u.depth = w.depth → Registry.base.evaluate env e p u =
      Registry.base.evaluateWithin (p.limit - w.depth) env e p u := by
    intro e u hdepth
    rw [Registry.evaluate, hdepth]
  have hself := Depth.simulates_evaluate p env (Nat.le_max_right w.deepest p.limit) hroom
  have hresult : (Depth.counted p env w.depth (max w.deepest p.limit)).diagonal.Result .nil :=
    trivial
  have hforms := Simulation.inOrder (fun a (_ : a ∈ forms) => hself a) hresult
  exact (Invariant.simulates_diagonal_iff.mp hforms).2 w ⟨rfl, Nat.le_max_left ..⟩

/-- A block evaluates its forms in order, as one more evaluation around them. -/
theorem evaluate_block (p : Policies) (env : ScopeId) (forms : List Value) {w : World}
    (hdepth : w.depth < p.limit) :
    Registry.base.evaluate env (.list (.symbol (text "do") :: forms)) p w =
      Evaluation.nested ((Registry.base.evaluateWithin (p.limit - (w.depth + 1))).inOrder env .nil
        forms) p w := by
  have hroom : p.limit - w.depth = p.limit - (w.depth + 1) + 1 := by omega
  rw [Registry.evaluate, hroom]
  rfl

/-- A sequence of forms does under a limit what the block of these forms does under the next one. -/
theorem related_block (p : Policies) (env : ScopeId) (forms : List Value) {limit : Nat} {w : World}
    (hdepth : w.depth ≤ limit) :
    ({ p with limit }.beside { p with limit := limit + 1 } env (Deepened limit)).Related
      (fun _ => True)
      (Registry.base.evaluate.inOrder env .nil forms { p with limit } w)
      (Registry.base.evaluate env (.list (.symbol (text "do") :: forms))
        { p with limit := limit + 1 } w) := by
  have hroom : limit + 1 - (w.depth + 1) = limit - w.depth := by omega
  rw [inOrder_evaluate, evaluate_block _ _ _ (Nat.lt_succ_of_le hdepth), hroom,
    Evaluation.nested_apply]
  have hself := (matching_deepened p limit).evaluateWithin env (limit - w.depth)
  have hresult : ({ p with limit }.beside { p with limit := limit + 1 } env
    (Deepened limit)).Result .nil := trivial
  have hforms := Simulation.inOrder (fun a (_ : a ∈ forms) => hself a) hresult
  -- Only the block begins and ends an evaluation. This shows in the count, but not in the view.
  have hentered : w.SameView w.entered := ⟨rfl, rfl⟩
  have hrelated := hforms hentered
  generalize Evaluator.inOrder _ env .nil forms { p with limit } w = out at hrelated
  generalize Evaluator.inOrder _ env .nil forms { p with limit := limit + 1 } w.entered = out'
    at hrelated
  cases hrelated with
  | value hresult hview => exact .value hresult ⟨hview.heap_eq, hview.log_eq⟩
  | stop hstops => exact .stop ⟨hstops.1, hstops.2.heap_eq, hstops.2.log_eq⟩
  | waived hwaived => exact hwaived.elim

/-- A script does what it does as a block, in braces, under the next limit. Both give the same
result and leave the same environments and log; if one of them is nested too deeply then so is the
other, at the same expression. A script that cannot be read fails, and nothing changes. -/
theorem script_eq_block (p : Policies) (env : ScopeId) (code : Text) {limit : Nat} {w : World}
    (hdepth : w.depth ≤ limit) :
    (∀ forms, parseAll code = .ok forms →
      (Registry.base.script env code { p with limit } w).2.heap =
        (Registry.base.evalText env (text "\x7b" ++ code ++ text "\x7d")
          { p with limit := limit + 1 } w).2.heap ∧
      (Registry.base.script env code { p with limit } w).2.log =
        (Registry.base.evalText env (text "\x7b" ++ code ++ text "\x7d")
          { p with limit := limit + 1 } w).2.log ∧
      (((∀ l e beside, (Registry.base.script env code { p with limit } w).1 ≠
          .failed ⟨.tooDeep l e, beside⟩) ∧
          (Registry.base.script env code { p with limit } w).1 =
            (Registry.base.evalText env (text "\x7b" ++ code ++ text "\x7d")
              { p with limit := limit + 1 } w).1) ∨
        ∃ e, (Registry.base.script env code { p with limit } w).1 =
            .failed ⟨.tooDeep limit e, .nil⟩ ∧
          (Registry.base.evalText env (text "\x7b" ++ code ++ text "\x7d")
            { p with limit := limit + 1 } w).1 = .failed ⟨.tooDeep (limit + 1) e, .nil⟩)) ∧
    ∀ error, parseAll code = .error error →
      Registry.base.script env code { p with limit } w =
        (.failed ⟨.within (text "parse failed") (.unreadable error), .nil⟩, w) := by
  constructor
  · intro forms hforms
    have hscript : Registry.base.script env code =
        Registry.base.evaluate.inOrder env .nil forms := by
      rw [Registry.script, Evaluator.script, hforms]
    have hblock : Registry.base.evalText env (text "\x7b" ++ code ++ text "\x7d") =
        Registry.base.evaluate env (.list (.symbol (text "do") :: forms)) := by
      have hparse : parse (text "\x7b" ++ code ++ text "\x7d") =
          .ok (.list (.symbol (text "do") :: forms)) :=
        Reader.parse_of_parseAll (Reader.parseAll_around hforms .block)
      rw [Registry.evalText, Evaluator.evalText, hparse]
    rw [hscript, hblock]
    obtain ⟨hview, hends⟩ := Policies.related_beside (related_block p env forms hdepth)
    refine ⟨hview.heap_eq, hview.log_eq, ?_⟩
    rcases hends with ⟨v, hv, hv'⟩ | ⟨s, s', hdeepened, hs, hs'⟩
    · exact .inl ⟨by simp [hv], by rw [hv, hv']⟩
    · cases hdeepened with
      | misuse policy error =>
        refine .inl ⟨?_, by rw [hs, hs']⟩
        cases policy <;> simp [hs, FatalPolicy.stop, Stop.outcome]
      | tooDeep e => exact .inr ⟨e, hs, hs'⟩
  · intro error herror
    rw [Registry.script, Evaluator.script, herror]
    rfl

/-- A script and its block are nested too deeply at the same expression. -/
theorem script_eq_block_tooDeep :
    parseAll (text "(def x (do)) x") = .ok [.list [.symbol (text "def"), .symbol (text "x"),
      .list [.symbol (text "do")]], .symbol (text "x")] ∧
    (Registry.base.script 0 (text "(def x (do)) x") { Policies.usual .warn with limit := 1 }
      ⟨Heap.empty.newRoot.2, [], 0, 0⟩).1 =
        .failed ⟨.tooDeep 1 (.list [.symbol (text "do")]), .nil⟩ ∧
    (Registry.base.evalText 0 (text "\x7b" ++ text "(def x (do)) x" ++ text "\x7d")
      { Policies.usual .warn with limit := 2 } ⟨Heap.empty.newRoot.2, [], 0, 0⟩).1 =
        .failed ⟨.tooDeep 2 (.list [.symbol (text "do")]), .nil⟩ := by
  have hforms : parseAll (text "(def x (do)) x") = .ok [.list [.symbol (text "def"),
      .symbol (text "x"), .list [.symbol (text "do")]], .symbol (text "x")] := rfl
  have hscript : (Registry.base.script 0 (text "(def x (do)) x")
      { Policies.usual .warn with limit := 1 } ⟨Heap.empty.newRoot.2, [], 0, 0⟩).1 =
        .failed ⟨.tooDeep 1 (.list [.symbol (text "do")]), .nil⟩ := rfl
  have hdepth : (⟨Heap.empty.newRoot.2, [], 0, 0⟩ : World).depth ≤ 1 := by decide
  have hends := ((script_eq_block (.usual .warn) 0 _ hdepth).1 _ hforms).2.2
  refine ⟨hforms, hscript, ?_⟩
  rcases hends with ⟨hother, -⟩ | ⟨e, he, hblock⟩
  · exact absurd hscript (hother _ _ _)
  · obtain rfl : .list [.symbol (text "do")] = e := by simpa [hscript] using he
    exact hblock

end Lisplet
