import Lisplet.Proofs.Evaluator.Inert
import Lisplet.Proofs.Evaluator.Mirror
import Lisplet.Workspace

/-!
# Sessions side by side

The sessions of a workspace take turns on one heap. Each of them knows its root and the environments
that it made inside of it, and it does not matter to a session what the others do in between: it
gets the same answers and messages, and its environments end up the same, as if it were alone. Only
the numbers of the scopes differ, which no session sees. They name their environments by the order
in which they got them.
-/

namespace Lisplet

/-! ### What a session can do -/

/-- What a session can be asked for in one of its environments. -/
inductive Deed where
  /-- To evaluate something. -/
  | call (c : Call)
  /-- To bind a name. -/
  | define (name : Text) (value : Value)
  /-- To make an environment inside of it. -/
  | push

/-- What a session answers. -/
inductive Answer where
  /-- With what became of an evaluation. -/
  | outcome (outcome : Outcome Value)
  /-- That a name is bound. -/
  | bound
  /-- That there is a new environment, which comes after those that the session knows. -/
  | pushed

namespace Deed

/-- A session does what it is asked for. The answer comes with the environments that it made. -/
def run (d : Deed) (env : ScopeId) (s : Session) : (Answer × List ScopeId) × Session :=
  match d with
  | .call c => ((.outcome (s.call env c).1, []), (s.call env c).2)
  | .define name value => ((.bound, []), s.defineIn env name value)
  | .push => ((.pushed, [(s.push env).1]), (s.push env).2)

/-- Nothing that a session is asked for changes its policies. -/
theorem policies_run (d : Deed) (env : ScopeId) (s : Session) :
    (d.run env s).2.policies = s.policies := by
  cases d with
  | call c => rw [run, Session.call_eq, Session.perform]
  | define name value => rfl
  | push => rfl

/-- Nor does it register anything. -/
theorem registry_run (d : Deed) (env : ScopeId) (s : Session) :
    (d.run env s).2.registry = s.registry := by
  cases d with
  | call c => exact s.registry_call env c
  | define name value => rfl
  | push => rfl

end Deed

/-! ### What a session leaves alone -/

namespace Heap

/-- What a session may make of a heap in an environment, with some new environments inside of it. -/
structure Grown (env : ScopeId) (made : List ScopeId) (h h' : Heap) : Prop where
  /-- The scopes are all still there. -/
  size_le : h.scopes.size ≤ h'.scopes.size
  /-- They are nested as before. -/
  outer?_eq : ∀ {s}, s < h.scopes.size → h'.outer? s = h.outer? s
  /-- Those that are not on the way outwards are untouched. -/
  scope?_eq : ∀ {s}, s < h.scopes.size → s ∉ h.chain env → h'.scope? s = h.scope? s
  /-- The new ones are new, and lie inside of the environment. -/
  of_mem_made : ∀ {s}, s ∈ made →
    h.scopes.size ≤ s ∧ s < h'.scopes.size ∧ h'.outer? s = some env

/-- What keeps within the frame makes no environments. -/
theorem Framed.grown {env : ScopeId} {h h' : Heap} (hframed : h.Framed env h') :
    h.Grown env [] h' where
  size_le := Nat.le_of_eq hframed.size_eq.symm
  outer?_eq _ := hframed.outer?_eq _
  scope?_eq _ hs := hframed.scope?_eq _ hs
  of_mem_made hs := absurd hs List.not_mem_nil

/-- Pushing a scope makes one environment. -/
theorem grown_push (h : Heap) (env : ScopeId) : h.Grown env [(h.push env).1] (h.push env).2 where
  size_le := by simp
  outer?_eq hs := outer?_push env hs
  scope?_eq hs _ := by rw [push, scope?_new, if_neg (Nat.ne_of_lt hs)]
  of_mem_made hs := by
    obtain rfl := List.mem_singleton.mp hs
    have hnew : (h.push env).1 = h.scopes.size := rfl
    rw [outer?_push_self, size_push, hnew]
    exact ⟨Nat.le_refl _, Nat.lt_succ_self _, rfl⟩

end Heap

/-- A call keeps within the frame. -/
theorem framed_call (p : Policies) (env : ScopeId) (c : Call) (w : World) :
    w.heap.Framed env (c.run Registry.base.evaluate env p w).2.heap := by
  have hself := (framed_lawful p env w.heap).evaluate Invariant.onHeap_nests
  have hcall := (framed_lawful p env w.heap).call hself id c
  exact (Invariant.good_of_ends (hcall (Heap.Framed.refl env w.heap))).1

/-- Whatever a session is asked for, only the scopes on the way outwards are touched. -/
theorem Deed.run_grown (d : Deed) (env : ScopeId) {s : Session} (hbase : s.registry = .base) :
    s.world.heap.Grown env (d.run env s).1.2 (d.run env s).2.world.heap := by
  cases d with
  | call c =>
    rw [run, Session.call_eq, hbase]
    exact (framed_call s.policies env c s.world).grown
  | define name value => exact (Heap.Framed.set _ env name value).grown
  | push => exact s.world.heap.grown_push env

/-! ### The same in copies of the environments -/

/-- A session does the same in an environment and in its copy, and what it makes are copies too. -/
theorem Deed.run_mirrors (d : Deed) {pairs : List (ScopeId × ScopeId)} {env env' : ScopeId}
    (henv : (env, env') ∈ pairs) {s : Session} (hbase : s.registry = .base) {w' : World}
    (hworlds : s.world.Mirrors pairs w') :
    (d.run env' { s with world := w' }).1.1 = (d.run env s).1.1 ∧
      (d.run env' { s with world := w' }).1.2.length = (d.run env s).1.2.length ∧
      World.Mirrors (pairs ++ (d.run env s).1.2.zip (d.run env' { s with world := w' }).1.2)
        (d.run env s).2.world (d.run env' { s with world := w' }).2.world := by
  cases d with
  | call c =>
    obtain ⟨houtcome, hafter⟩ := mirrored_call s.policies henv hworlds c
    simp only [run, Session.call_eq, Session.perform, hbase, List.zip_nil_left, List.append_nil]
    exact ⟨congrArg Answer.outcome houtcome, trivial, hafter⟩
  | define name value =>
    refine ⟨rfl, rfl, ?_⟩
    rw [run, List.zip_nil_left, List.append_nil]
    exact hworlds.replace (hworlds.heap.set henv name value)
  | push => exact ⟨rfl, rfl, hworlds.replace (hworlds.heap.push henv)⟩

/-! ### Turns -/

namespace Workspace

/-- The workspace after a member acted as a session. -/
def after (w : Workspace) (i : Nat) (m : Member) (s : Session) : Workspace where
  heap := s.world.heap
  registries := w.registries.setIfInBounds m.registry s.registry
  members := w.members.setIfInBounds i
    { m with policies := s.policies, depth := s.world.depth, deepest := s.world.deepest }

variable {w : Workspace} {i : Nat} {m : Member}

/-- A member acts as the session that it is. -/
theorem act_of_member {α : Type} (hm : w.members[i]? = some m) (f : Session → α × Session) :
    w.act i f = some ((f (w.session m)).1, (f (w.session m)).2.world.log,
      w.after i m (f (w.session m)).2) := by
  rw [act, hm]
  rfl

/-- Without such a member nothing is done. -/
theorem act_of_no_member {α : Type} (hm : w.members[i]? = none) (f : Session → α × Session) :
    w.act i f = none := by
  rw [act, hm]
  rfl

/-- The member has the policies and counts of the session in which it acted. -/
theorem members_after_self (hm : w.members[i]? = some m) (s : Session) :
    (w.after i m s).members[i]? = some
      { m with policies := s.policies, depth := s.world.depth, deepest := s.world.deepest } := by
  have hi : i < w.members.size := (Array.getElem?_eq_some_iff.mp hm).1
  rw [after, Array.getElem?_setIfInBounds_self_of_lt hi]

/-- The other members are what they were. -/
theorem members_after_of_ne {j : Nat} (hj : j ≠ i) (s : Session) :
    (w.after i m s).members[j]? = w.members[j]? := by
  rw [after, Array.getElem?_setIfInBounds_ne hj.symm]

/-- A registry with the base operations keeps them if the member has no others. -/
theorem registry_after {s : Session} (hs : s.registry = .base) {n : Nat}
    (hn : w.registry n = .base) : (w.after i m s).registry n = .base := by
  rw [registry] at hn
  rw [registry, after, hs, Array.getElem?_setIfInBounds]
  by_cases hnumber : m.registry = n
  · rw [if_pos hnumber]
    split <;> rfl
  · rw [if_neg hnumber]
    exact hn

end Workspace

/-- A member is asked for something in one of its environments. -/
structure Turn where
  /-- The number of the member. -/
  member : Nat
  /-- The number of the environment among those that the member knows. -/
  env : Nat
  /-- What it is asked for. -/
  deed : Deed

/-- A workspace, and the environments that its members know, in the order in which they got them. -/
structure Stage where
  /-- The workspace. -/
  workspace : Workspace
  /-- The environments of each member. -/
  environments : Nat → List ScopeId

namespace Stage

/-- The members of a workspace know their roots. -/
def start (w : Workspace) : Stage :=
  ⟨w, fun i => (w.members[i]?.map Member.root).toList⟩

/-- A member has its turn. There is an answer, with the messages that were logged, if there is such
a member and it knows such an environment. -/
def take (st : Stage) (t : Turn) : Option (Answer × List Log.Record) × Stage :=
  match (st.environments t.member)[t.env]? with
  | none => (none, st)
  | some env =>
    match st.workspace.act t.member (t.deed.run env) with
    | none => (none, st)
    | some ((answer, made), log, workspace) =>
      (some (answer, log),
        ⟨workspace, Function.update st.environments t.member (st.environments t.member ++ made)⟩)

/-- The members have some turns, one after the other. Each answer comes with the member who
gave it. -/
def takeAll (st : Stage) : List Turn → List (Nat × Option (Answer × List Log.Record)) × Stage
  | [] => ([], st)
  | t :: rest =>
    ((t.member, (st.take t).1) :: ((st.take t).2.takeAll rest).1, ((st.take t).2.takeAll rest).2)

/-- What there is to see of a member: its policies and counts, and for each of its environments the
bindings and the environment around it. -/
def view (st : Stage) (i : Nat) : Option Member × List (Dictionary Value × Option Nat) :=
  (st.workspace.members[i]?, (st.environments i).map fun e =>
    (st.workspace.heap.bindings e,
      (st.workspace.heap.outer? e).map fun o => (st.environments i).idxOf o))

/-- The member who has a turn, and the environment in which it acts. -/
def actor? (st : Stage) (t : Turn) : Option (Member × ScopeId) :=
  (st.workspace.members[t.member]?).bind fun m =>
    ((st.environments t.member)[t.env]?).map fun env => (m, env)

/-- The stage after a member acted as a session and made some environments. -/
def after (st : Stage) (i : Nat) (m : Member) (made : List ScopeId) (s : Session) : Stage :=
  ⟨st.workspace.after i m s, Function.update st.environments i (st.environments i ++ made)⟩

/-- The member knows the environments that it made. -/
theorem environments_after_self (st : Stage) (i : Nat) (m : Member) (made : List ScopeId)
    (s : Session) : (st.after i m made s).environments i = st.environments i ++ made :=
  Function.update_self ..

/-- The other members know no more than before. -/
theorem environments_after_of_ne (st : Stage) {i j : Nat} (hj : j ≠ i) (m : Member)
    (made : List ScopeId) (s : Session) :
    (st.after i m made s).environments j = st.environments j :=
  Function.update_of_ne hj ..

variable {st : Stage} {t : Turn}

/-- A turn has an actor if there is the member and it knows the environment. -/
theorem actor?_eq_some_iff {m : Member} {env : ScopeId} :
    st.actor? t = some (m, env) ↔
      st.workspace.members[t.member]? = some m ∧
        (st.environments t.member)[t.env]? = some env := by
  simp [actor?, Option.bind_eq_some_iff]

/-- A turn without an actor passes. -/
theorem take_of_none (hactor : st.actor? t = none) : st.take t = (none, st) := by
  rw [take]
  cases henv : (st.environments t.member)[t.env]? with
  | none => rfl
  | some env =>
    cases hm : st.workspace.members[t.member]? with
    | none => simp only [Workspace.act_of_no_member hm]
    | some m => simp [actor?, hm, henv] at hactor

/-- The actor of a turn does what it is asked for. -/
theorem take_of_some {m : Member} {env : ScopeId} (hactor : st.actor? t = some (m, env)) :
    st.take t =
      (some ((t.deed.run env (st.workspace.session m)).1.1,
          (t.deed.run env (st.workspace.session m)).2.world.log),
        st.after t.member m (t.deed.run env (st.workspace.session m)).1.2
          (t.deed.run env (st.workspace.session m)).2) := by
  obtain ⟨hm, henv⟩ := actor?_eq_some_iff.mp hactor
  simp only [take, henv, Workspace.act_of_member hm]
  rfl

end Stage

/-! ### Sessions with environments of their own -/

namespace Heap

/-- Some scopes of a heap, together with all scopes around them. -/
structure Closed (h : Heap) (scopes : List ScopeId) : Prop where
  /-- There are the scopes. -/
  lt_size : ∀ {e}, e ∈ scopes → e < h.scopes.size
  /-- The scope around one of them is one of them. -/
  outer : ∀ {e o}, e ∈ scopes → h.outer? e = some o → o ∈ scopes ∧ o < e

variable {h h' : Heap} {scopes : List ScopeId} {e : ScopeId}

/-- The way outwards stays among the scopes. -/
theorem Closed.mem_of_mem_chain (hclosed : h.Closed scopes) (he : e ∈ scopes) {s : ScopeId}
    (hs : s ∈ h.chain e) : s ∈ scopes := by
  induction e using Nat.strongRecOn with
  | ind e ih =>
    rw [chain] at hs
    cases houter : h.outer? e with
    | none =>
      rw [houter, List.mem_singleton] at hs
      rwa [hs]
    | some o =>
      obtain ⟨ho, hlt⟩ := hclosed.outer he houter
      simp only [houter, if_pos hlt, List.mem_cons] at hs
      rcases hs with rfl | hs
      · exact he
      · exact ih o hlt ho hs

/-- Scopes stay together while a heap grows. -/
theorem Closed.grown (hclosed : h.Closed scopes) {env : ScopeId} {made : List ScopeId}
    (hgrown : h.Grown env made h') : h'.Closed scopes where
  lt_size he := Nat.lt_of_lt_of_le (hclosed.lt_size he) hgrown.size_le
  outer he ho := by
    rw [hgrown.outer?_eq (hclosed.lt_size he)] at ho
    exact hclosed.outer he ho

/-- New scopes inside of one of the scopes join them. -/
theorem Closed.append (hclosed : h.Closed scopes) {env : ScopeId} (henv : env ∈ scopes)
    {made : List ScopeId} (hgrown : h.Grown env made h') : h'.Closed (scopes ++ made) where
  lt_size he := by
    rcases List.mem_append.mp he with he | he
    · exact (hclosed.grown hgrown).lt_size he
    · exact (hgrown.of_mem_made he).2.1
  outer he ho := by
    rcases List.mem_append.mp he with he | he
    · obtain ⟨hmem, hlt⟩ := (hclosed.grown hgrown).outer he ho
      exact ⟨List.mem_append_left _ hmem, hlt⟩
    · obtain ⟨hsize, -, houter⟩ := hgrown.of_mem_made he
      obtain rfl := Option.some.inj (houter.symm.trans ho)
      exact ⟨List.mem_append_left _ henv, Nat.lt_of_lt_of_le (hclosed.lt_size henv) hsize⟩

/-- A scope and its copy come at the same place. -/
theorem Mirrors.idxOf_eq {pairs : List (ScopeId × ScopeId)} (hmirrors : h.Mirrors pairs h')
    {s s' : ScopeId} (hs : (s, s') ∈ pairs) :
    (pairs.map Prod.snd).idxOf s' = (pairs.map Prod.fst).idxOf s := by
  have hiff : ∀ pair ∈ pairs, pair.1 = s ↔ pair.2 = s' := fun _ hpair => hmirrors.eq_iff hpair hs
  clear hmirrors hs
  induction pairs with
  | nil => rfl
  | cons pair rest ih =>
    rw [List.forall_mem_cons] at hiff
    rw [List.map_cons, List.map_cons, List.idxOf_cons, List.idxOf_cons, ih hiff.2]
    by_cases hpair : pair.1 = s
    · rw [beq_iff_eq.mpr hpair, beq_iff_eq.mpr (hiff.1.mp hpair)]
    · have hpair' : pair.2 ≠ s' := fun heq => hpair (hiff.1.mpr heq)
      rw [beq_eq_false_iff_ne.mpr hpair, beq_eq_false_iff_ne.mpr hpair']

/-- In a list beside itself each scope is beside itself. -/
theorem mem_zip_self {s s' : ScopeId} : (s, s') ∈ scopes.zip scopes ↔ s = s' ∧ s ∈ scopes := by
  rw [List.mem_iff_getElem?, List.mem_iff_getElem?]
  simp only [List.getElem?_zip_eq_some]
  constructor
  · rintro ⟨k, hs, hs'⟩
    exact ⟨Option.some.inj (hs.symm.trans hs'), k, hs⟩
  · rintro ⟨rfl, k, hs⟩
    exact ⟨k, hs, hs⟩

/-- Scopes are copies of themselves. -/
theorem Closed.mirrors (hclosed : h.Closed scopes) : h.Mirrors (scopes.zip scopes) h where
  lt_size he := by
    obtain ⟨rfl, hmem⟩ := mem_zip_self.mp he
    exact ⟨hclosed.lt_size hmem, hclosed.lt_size hmem⟩
  eq_iff he hs := by rw [(mem_zip_self.mp he).1, (mem_zip_self.mp hs).1]
  bindings_eq he := by rw [(mem_zip_self.mp he).1]
  outer?_rel {e e'} he := by
    obtain ⟨rfl, hmem⟩ := mem_zip_self.mp he
    cases houter : h.outer? e with
    | none => exact .none
    | some o =>
      obtain ⟨ho, hlt⟩ := hclosed.outer hmem houter
      exact .some ⟨mem_zip_self.mpr ⟨rfl, ho⟩, hlt, hlt⟩

end Heap

namespace Stage

/-- The members have the base operations, and no two of them know a common environment. -/
structure Separate (st : Stage) : Prop where
  /-- The registries of the members hold the base operations. -/
  base : ∀ {i : Nat} {m : Member}, st.workspace.members[i]? = some m →
    st.workspace.registry m.registry = .base
  /-- A member knows the environments around those it knows. -/
  closed : ∀ i, st.workspace.heap.Closed (st.environments i)
  /-- An environment is known to one member. -/
  eq_of_mem : ∀ {i j : Nat} {e : ScopeId}, e ∈ st.environments i → e ∈ st.environments j → i = j

variable {st st' : Stage} {t : Turn} {i : Nat}

/-- Members with a root of their own each have nothing in common. -/
theorem separate_start {w : Workspace}
    (hbase : ∀ m ∈ w.members, w.registry m.registry = .base)
    (hroot : ∀ m ∈ w.members, m.root < w.heap.scopes.size ∧ w.heap.outer? m.root = none)
    (hroots : (w.members.toList.map Member.root).Nodup) : (start w).Separate := by
  have hmem : ∀ {i e}, e ∈ (start w).environments i →
      ∃ m ∈ w.members, m.root = e ∧ (w.members.toList.map Member.root)[i]? = some e := by
    intro i e he
    obtain ⟨m, hm, rfl⟩ : ∃ m, w.members[i]? = some m ∧ m.root = e := by
      simpa [start, Option.mem_toList] using he
    refine ⟨m, Array.mem_of_getElem? hm, rfl, ?_⟩
    rw [List.getElem?_map, Array.getElem?_toList, hm, Option.map_some]
  constructor
  · intro i m hm
    exact hbase m (Array.mem_of_getElem? hm)
  · intro i
    constructor
    · intro e he
      obtain ⟨m, hm, rfl, -⟩ := hmem he
      exact (hroot m hm).1
    · intro e o he ho
      obtain ⟨m, hm, rfl, -⟩ := hmem he
      exact absurd ((hroot m hm).2.symm.trans ho) (by simp)
  · intro i j e hi hj
    obtain ⟨-, -, -, hi⟩ := hmem hi
    obtain ⟨-, -, -, hj⟩ := hmem hj
    have hlt := (List.getElem?_eq_some_iff.mp hi).1
    exact (List.getElem?_inj hlt hroots).mp (hi.trans hj.symm)

section After

variable {m : Member} {env : ScopeId} {made : List ScopeId} {s : Session}

/-- The members stay apart when one of them acts in an environment that it knows. -/
theorem Separate.after (hsep : st.Separate) (hm : st.workspace.members[i]? = some m)
    (henv : env ∈ st.environments i) (hbase : s.registry = .base)
    (hgrown : st.workspace.heap.Grown env made s.world.heap) :
    (st.after i m made s).Separate := by
  -- New environments have numbers that no environment had so far.
  have hfresh : ∀ {j e}, e ∈ st.environments j → e ∉ made := fun he hmade =>
    absurd ((hsep.closed _).lt_size he) (Nat.not_lt.mpr (hgrown.of_mem_made hmade).1)
  have hmem : ∀ {j e}, e ∈ (st.after i m made s).environments j →
      e ∈ st.environments j ∨ j = i ∧ e ∈ made := by
    intro j e he
    by_cases hj : j = i
    · subst hj
      rw [environments_after_self] at he
      exact (List.mem_append.mp he).imp_right fun hmade => ⟨rfl, hmade⟩
    · rw [environments_after_of_ne st hj] at he
      exact Or.inl he
  constructor
  · intro j n hn
    refine Workspace.registry_after hbase ?_
    by_cases hj : j = i
    · subst hj
      have hregistry : n.registry = m.registry := by
        rw [← Option.some.inj ((Workspace.members_after_self hm s).symm.trans hn)]
      rw [hregistry]
      exact hsep.base hm
    · exact hsep.base ((Workspace.members_after_of_ne hj s).symm.trans hn)
  · intro j
    by_cases hj : j = i
    · subst hj
      rw [environments_after_self]
      exact (hsep.closed j).append henv hgrown
    · rw [environments_after_of_ne st hj]
      exact (hsep.closed j).grown hgrown
  · intro j k e hj hk
    rcases hmem hj with hold | ⟨hji, hmade⟩
    · rcases hmem hk with hold' | ⟨-, hmade⟩
      · exact hsep.eq_of_mem hold hold'
      · exact absurd hmade (hfresh hold)
    · rcases hmem hk with hold | ⟨hki, -⟩
      · exact absurd hmade (hfresh hold)
      · rw [hji, hki]

end After

/-- Two stages that look the same to a member. -/
structure Tied (i : Nat) (st st' : Stage) : Prop where
  /-- The member is the same. -/
  member_eq : st'.workspace.members[i]? = st.workspace.members[i]?
  /-- It knows as many environments. -/
  length_eq : (st'.environments i).length = (st.environments i).length
  /-- Those of the one stage are copies of those of the other. -/
  mirrors : st.workspace.heap.Mirrors ((st.environments i).zip (st'.environments i))
    st'.workspace.heap

/-- A stage looks the same to a member as itself. -/
theorem Separate.tied (hsep : st.Separate) (i : Nat) : Tied i st st :=
  ⟨rfl, rfl, (hsep.closed i).mirrors⟩

section After

variable {m : Member} {env env' : ScopeId} {made made' : List ScopeId} {s s' : Session}

/-- What another member does in its environments does not change how the stage looks. -/
theorem Tied.after_other (htied : Tied i st st') (hsep : st.Separate) {j : Nat} (hj : j ≠ i)
    (henv : env ∈ st.environments j) (hgrown : st.workspace.heap.Grown env made s.world.heap) :
    Tied i (st.after j m made s) st' where
  member_eq := htied.member_eq.trans (Workspace.members_after_of_ne hj.symm s).symm
  length_eq := by rw [environments_after_of_ne st hj.symm, htied.length_eq]
  mirrors := by
    rw [environments_after_of_ne st hj.symm]
    refine htied.mirrors.congr fun {e e'} he => ?_
    have hmem : e ∈ st.environments i := (List.of_mem_zip he).1
    -- All that is written lies on the way outwards, and the other member knows all of it.
    refine hgrown.scope?_eq ((hsep.closed i).lt_size hmem) fun hchain => hj ?_
    exact hsep.eq_of_mem ((hsep.closed j).mem_of_mem_chain henv hchain) hmem

/-- The member itself does the same on both stages. -/
theorem Tied.after_own (htied : Tied i st st') (hm : st.workspace.members[i]? = some m)
    (hpolicies : s'.policies = s.policies) (hmade : made'.length = made.length)
    (hworlds : s.world.Mirrors ((st.environments i).zip (st'.environments i) ++ made.zip made')
      s'.world) :
    Tied i (st.after i m made s) (st'.after i m made' s') where
  member_eq := by
    have hm' : st'.workspace.members[i]? = some m := htied.member_eq.trans hm
    refine (Workspace.members_after_self hm' s').trans ?_
    refine Eq.trans ?_ (Workspace.members_after_self hm s).symm
    rw [hpolicies, hworlds.eq_with_heap]
  length_eq := by
    rw [environments_after_self, environments_after_self, List.length_append, List.length_append,
      htied.length_eq, hmade]
  mirrors := by
    rw [environments_after_self, environments_after_self, List.zip_append htied.length_eq.symm]
    exact hworlds.heap

end After

/-! ### One turn -/

/-- A turn touches only what lies on the way outwards of its environment. -/
theorem Separate.run_grown (hsep : st.Separate) {m : Member} {env : ScopeId}
    (hactor : st.actor? t = some (m, env)) :
    st.workspace.heap.Grown env (t.deed.run env (st.workspace.session m)).1.2
      (t.deed.run env (st.workspace.session m)).2.world.heap :=
  t.deed.run_grown env (hsep.base (actor?_eq_some_iff.mp hactor).1)

/-- After a turn the members are still separate. -/
theorem Separate.take (hsep : st.Separate) (t : Turn) : (st.take t).2.Separate := by
  cases hactor : st.actor? t with
  | none =>
    rw [take_of_none hactor]
    exact hsep
  | some actor =>
    obtain ⟨m, env⟩ := actor
    obtain ⟨hm, henv⟩ := actor?_eq_some_iff.mp hactor
    rw [take_of_some hactor]
    exact hsep.after hm (List.mem_of_getElem? henv)
      ((t.deed.registry_run env _).trans (hsep.base hm)) (hsep.run_grown hactor)

/-- What others do does not change how the stage looks to a member. -/
theorem Tied.take_other (htied : Tied i st st') (hsep : st.Separate) (ht : t.member ≠ i) :
    Tied i (st.take t).2 st' := by
  cases hactor : st.actor? t with
  | none =>
    rw [take_of_none hactor]
    exact htied
  | some actor =>
    obtain ⟨m, env⟩ := actor
    obtain ⟨hm, henv⟩ := actor?_eq_some_iff.mp hactor
    rw [take_of_some hactor]
    exact htied.after_other hsep ht (List.mem_of_getElem? henv) (hsep.run_grown hactor)

/-- A member has a turn on both of two stages that look the same to it, or on none. -/
theorem Tied.actor? (htied : Tied t.member st st') :
    Option.Rel (fun a a' => a'.1 = a.1 ∧
        (a.2, a'.2) ∈ (st.environments t.member).zip (st'.environments t.member))
      (st.actor? t) (st'.actor? t) := by
  rw [Stage.actor?, Stage.actor?, htied.member_eq]
  cases st.workspace.members[t.member]? with
  | none => exact .none
  | some m =>
    rw [Option.bind_some, Option.bind_some]
    cases henv : (st.environments t.member)[t.env]? with
    | none =>
      have henv' : (st'.environments t.member)[t.env]? = none := by
        rw [List.getElem?_eq_none_iff] at henv ⊢
        rwa [htied.length_eq]
      rw [henv']
      exact .none
    | some env =>
      have hlt : t.env < (st'.environments t.member).length := by
        rw [htied.length_eq]
        exact (List.getElem?_eq_some_iff.mp henv).1
      have henv' := List.getElem?_eq_getElem hlt
      rw [henv']
      have hpair : ((st.environments t.member).zip (st'.environments t.member))[t.env]? =
          some (env, (st'.environments t.member)[t.env]) :=
        List.getElem?_zip_eq_some.mpr ⟨henv, henv'⟩
      exact .some ⟨rfl, List.mem_of_getElem? hpair⟩

/-- A member gets the same answer on two stages that look the same to it, and they still do so
behind its turn. -/
theorem Tied.take_own (htied : Tied t.member st st') (hsep : st.Separate) (hsep' : st'.Separate) :
    (st'.take t).1 = (st.take t).1 ∧ Tied t.member (st.take t).2 (st'.take t).2 := by
  have hactors := htied.actor?
  generalize hactor : st.actor? t = actor at hactors
  generalize hactor' : st'.actor? t = actor' at hactors
  cases hactors with
  | none =>
    rw [take_of_none hactor, take_of_none hactor']
    exact ⟨rfl, htied⟩
  | @some a a' hsame =>
    obtain ⟨m, env⟩ := a
    obtain ⟨m', env'⟩ := a'
    obtain ⟨rfl, henv⟩ : m' = m ∧ (env, env') ∈ _ := hsame
    obtain ⟨hm, -⟩ := actor?_eq_some_iff.mp hactor
    obtain ⟨hm', -⟩ := actor?_eq_some_iff.mp hactor'
    -- The registries are the same, so that the sessions differ in their environments only.
    have hsession : st'.workspace.session m' =
        { st.workspace.session m' with world := (st'.workspace.session m').world } := by
      rw [Workspace.session, Workspace.session, hsep.base hm, hsep'.base hm']
    have hworlds : World.Mirrors ((st.environments t.member).zip (st'.environments t.member))
        (st.workspace.session m').world (st'.workspace.session m').world := ⟨htied.mirrors, rfl⟩
    obtain ⟨hanswer, hmade, hafter⟩ := t.deed.run_mirrors henv (hsep.base hm) hworlds
    rw [← hsession] at hanswer hmade hafter
    rw [take_of_some hactor, take_of_some hactor', hanswer, hafter.eq_with_heap]
    refine ⟨rfl, htied.after_own hm ?_ hmade hafter⟩
    rw [Deed.policies_run, Deed.policies_run]
    rfl

/-- A member sees the same on two stages that look the same to it. -/
theorem Tied.view_eq (htied : Tied i st st') : st'.view i = st.view i := by
  have hfst := List.map_fst_zip (Nat.le_of_eq htied.length_eq.symm)
  have hsnd := List.map_snd_zip (Nat.le_of_eq htied.length_eq)
  have hpairs := htied.mirrors
  rw [view, view, htied.member_eq]
  generalize (st.environments i).zip (st'.environments i) = pairs at hfst hsnd hpairs
  rw [← hfst, ← hsnd, List.map_map, List.map_map]
  refine congrArg (Prod.mk _) (List.map_congr_left fun pair hpair => ?_)
  rcases pair with ⟨e, e'⟩
  have houter := hpairs.outer?_rel hpair
  simp only [Function.comp_apply, hpairs.bindings_eq hpair]
  generalize st.workspace.heap.outer? e = outer at houter
  generalize st'.workspace.heap.outer? e' = outer' at houter
  cases houter with
  | none => rfl
  | some ho => rw [Option.map_some, Option.map_some, hpairs.idxOf_eq ho.1]

/-! ### Many turns -/

/-- What a member answers and sees on a stage where all take turns is what it answers and sees on
one where it is alone. -/
theorem Tied.takeAll (htied : Tied i st st') (hsep : st.Separate) (hsep' : st'.Separate)
    (turns : List Turn) :
    ((st.takeAll turns).1.filter fun answer => answer.1 == i) =
        (st'.takeAll (turns.filter fun t => t.member == i)).1 ∧
      Tied i (st.takeAll turns).2 (st'.takeAll (turns.filter fun t => t.member == i)).2 := by
  -- A turn of the member is taken on both stages, and one of another member on the first alone.
  induction turns generalizing st st' with
  | nil => exact ⟨rfl, htied⟩
  | cons t rest ih =>
    by_cases ht : t.member = i
    · subst ht
      obtain ⟨hanswer, hafter⟩ := htied.take_own hsep hsep'
      obtain ⟨hanswers, hend⟩ := ih hafter (hsep.take t) (hsep'.take t)
      have hself : (t.member == t.member) = true := beq_self_eq_true _
      simp only [List.filter_cons, hself, if_true, Stage.takeAll, hanswers, hanswer]
      exact ⟨trivial, hend⟩
    · obtain ⟨hanswers, hend⟩ := ih (htied.take_other hsep ht) (hsep.take t) hsep'
      have hother : (t.member == i) = false := beq_eq_false_iff_ne.mpr ht
      simp only [List.filter_cons, hother, Bool.false_eq_true, if_false, Stage.takeAll, hanswers]
      exact ⟨trivial, hend⟩

/-- Sessions do not interfere. Whatever turns the members of a workspace take, each of them gives
the answers and logs the messages that it would on its own, and its environments and counts end up
the same. -/
theorem takeAll_alone (hsep : st.Separate) (turns : List Turn) (i : Nat) :
    ((st.takeAll turns).1.filter fun answer => answer.1 == i) =
        (st.takeAll (turns.filter fun t => t.member == i)).1 ∧
      (st.takeAll turns).2.view i =
        (st.takeAll (turns.filter fun t => t.member == i)).2.view i := by
  obtain ⟨hanswers, hend⟩ := (hsep.tied i).takeAll hsep hsep turns
  exact ⟨hanswers, hend.view_eq.symm⟩

/-- Two sessions that share a registry. A misuse ends an evaluation of the first with a failure and
breaks off one of the second. -/
def pair : Workspace where
  heap := Heap.empty.newRoot.2.newRoot.2
  registries := #[.base]
  members := #[⟨.usual .warn, 0, 0, 0, 0⟩,
    ⟨{ Policies.usual .warn with fatal := .abort }, 0, 1, 0, 0⟩]

/-- Turns in which both sessions bind one name, and both misuse a form. -/
def pairTurns : List Turn :=
  [⟨0, 0, .call (.script (text "(def x #t) (set y #t)"))⟩, ⟨1, 0, .define (text "x") (.bool false)⟩,
    ⟨1, 0, .push⟩, ⟨0, 0, .push⟩, ⟨1, 1, .call (.code (text "(do (set x x) (if))"))⟩,
    ⟨0, 1, .call (.code (text "(set x (= x #t))"))⟩]

/-- The first of two sessions, which share a registry and bind the same name, answers as if it were
alone. -/
theorem takeAll_alone_pair :
    (start pair).Separate ∧
      (((start pair).takeAll pairTurns).1.filter fun answer => answer.1 == 0) =
        ((start pair).takeAll (pairTurns.filter fun t => t.member == 0)).1 ∧
      ((start pair).takeAll pairTurns).2.view 0 =
        ((start pair).takeAll (pairTurns.filter fun t => t.member == 0)).2.view 0 := by
  have hsep : (start pair).Separate := by
    have hmembers : ∀ m ∈ pair.members, m.registry = 0 ∧ (m.root = 0 ∨ m.root = 1) := by
      simp [pair]
    refine separate_start (fun m hm => ?_) (fun m hm => ?_) (by decide)
    · rw [(hmembers m hm).1]
      rfl
    · rcases (hmembers m hm).2 with hroot | hroot <;> rw [hroot] <;> decide
  exact ⟨hsep, takeAll_alone hsep pairTurns 0⟩

end Stage

end Lisplet
