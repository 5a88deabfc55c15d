import Lisplet.Evaluator.Basic

/-!
# Sessions

A session keeps a root environment and the policies, operations and world in which its programs
run.
-/

namespace Lisplet

/-- A session. -/
structure Session where
  /-- The policies in force. -/
  policies : Policies
  /-- The operations that programs can use. -/
  registry : Registry
  /-- The root environment. -/
  root : ScopeId
  /-- The environments, the log and the count of evaluations in progress. -/
  world : World

namespace Session

/-- A session with a new root on a heap. -/
def on (policies : Policies) (registry : Registry) (heap : Heap) : Session :=
  let (root, heap) := heap.newRoot
  ⟨policies, registry, root, ⟨heap, [], 0, 0⟩⟩

/-- A session on a heap of its own, with the base operations. -/
def new (policies : Policies) : Session := on policies .base .empty

/-- The session with another heap. -/
def withHeap (s : Session) (h : Heap) : Session := { s with world := { s.world with heap := h } }

/-- Runs an evaluation in the world of the session. -/
def perform {α : Type} (s : Session) (x : Evaluation α) : Outcome α × Session :=
  match x s.policies s.world with
  | (outcome, world) => (outcome, { s with world })

/-- Evaluates an expression in an environment. -/
def evaluateIn (s : Session) (env : ScopeId) (e : Value) : Outcome Value × Session :=
  s.perform (s.registry.evaluate env e)

/-- Evaluates the first expression of a text in an environment. -/
def evalIn (s : Session) (env : ScopeId) (code : Text) : Outcome Value × Session :=
  s.perform (s.registry.evalText env code)

/-- Evaluates all expressions of a text in an environment. -/
def runIn (s : Session) (env : ScopeId) (code : Text) : Outcome Value × Session :=
  s.perform (s.registry.script env code)

/-- Evaluates the first expression of a text. -/
def eval (s : Session) (code : Text) : Outcome Value × Session := s.evalIn s.root code

/-- Evaluates all expressions of a text. -/
def run (s : Session) (code : Text) : Outcome Value × Session := s.runIn s.root code

/-- Binds a name in the root environment. -/
def define (s : Session) (name : Text) (v : Value) : Session :=
  s.withHeap (s.world.heap.set s.root name v)

/-- Registers an operation, in place of any other with its name. -/
def register (s : Session) (name : Text) (operation : Operation) : Session :=
  { s with registry := Dictionary.insert name operation s.registry }

/-- Sets the level of the log. -/
def setLevel (s : Session) (level : Log.Level) : Session :=
  { s with policies := { s.policies with level } }

/-- A new environment inside another. -/
def push (s : Session) (env : ScopeId) : ScopeId × Session :=
  let (inner, h) := s.world.heap.push env
  (inner, s.withHeap h)

/-- Binds a name in an environment. -/
def defineIn (s : Session) (env : ScopeId) (name : Text) (v : Value) : Session :=
  s.withHeap (s.world.heap.set env name v)

end Session

end Lisplet
