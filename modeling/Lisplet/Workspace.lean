import Lisplet.Config.Settings

/-!
# Workspaces

A workspace holds several sessions over one heap of environments. Sessions can share a registry of
operations, and then each sees what the other registers.
-/

namespace Lisplet

/-- A session of a workspace. -/
structure Member where
  /-- The policies in force. -/
  policies : Policies
  /-- The number of its registry. -/
  registry : Nat
  /-- Its root environment. -/
  root : ScopeId
  /-- The number of its evaluations in progress. -/
  depth : Nat
  /-- The largest number of its evaluations that were ever in progress. -/
  deepest : Nat

/-- Several sessions over one heap. -/
structure Workspace where
  /-- The environments of all sessions. -/
  heap : Heap
  /-- The registries. -/
  registries : Array Registry
  /-- The sessions. -/
  members : Array Member

namespace Workspace

/-- A workspace without sessions. -/
def empty : Workspace := ⟨.empty, #[], #[]⟩

/-- The registry with a given number. -/
def registry (w : Workspace) (n : Nat) : Registry := w.registries[n]?.getD .base

/-- A member of the workspace as a session with an empty log. -/
def session (w : Workspace) (m : Member) : Session :=
  ⟨m.policies, w.registry m.registry, m.root, ⟨w.heap, [], m.depth, m.deepest⟩⟩

/-- Adds a session under some settings. It gets a registry of its own, or shares that of a
member. -/
def add (w : Workspace) (settings : Config.Settings) (level : Log.Level) (partner : Option Member) :
    Except Failure (Member × Workspace) :=
  let (number, registries) := match partner with
    | some m => (m.registry, w.registries)
    | none => (w.registries.size, w.registries.push .base)
  let w := { w with registries }
  match settings.sessionOn (w.registry number) w.heap level with
  | .error f => .error f
  | .ok s =>
    let m : Member := ⟨s.policies, number, s.root, s.world.depth, s.world.deepest⟩
    .ok (m, { w with heap := s.world.heap, members := w.members.push m })

/-- Lets a session act. The result comes with the messages it logged. -/
def act {α : Type} (w : Workspace) (i : Nat) (f : Session → α × Session) :
    Option (α × List Log.Record × Workspace) :=
  w.members[i]?.map fun m =>
    match f (w.session m) with
    | (result, s) =>
      let m := { m with policies := s.policies, depth := s.world.depth, deepest := s.world.deepest }
      (result, s.world.log,
        { heap := s.world.heap,
          registries := w.registries.setIfInBounds m.registry s.registry,
          members := w.members.setIfInBounds i m })

end Workspace

end Lisplet
