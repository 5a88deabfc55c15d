import Lisplet.Config.Datum
import Lisplet.Session

/-!
# Settings of a session

The settings choose the policies of a session and the bindings that it begins with.
-/

namespace Lisplet.Config

/-- The settings of a session. -/
structure Settings where
  /-- The spelling of the log level; none is chosen if it is empty. -/
  logLevel : Text
  /-- The spelling of the fatal policy. -/
  fatalPolicy : Text
  /-- The spelling of the seed policy. -/
  seedPolicy : Text
  /-- The limit on nesting; none is chosen if it is not positive. -/
  maxDepth : Int
  /-- The bindings to begin with, in ascending order of their names. -/
  bindings : Dictionary Datum

/-- A binding that was refused. -/
structure Refusal where
  /-- The name of the binding. -/
  name : Text
  /-- What has no value. -/
  cause : Unsupported

/-- A refused binding as a failure. -/
def Refusal.failure (r : Refusal) : Failure :=
  .within (text "binding " ++ r.name) (.plain r.cause.message)

namespace Settings

/-- The settings that choose nothing. -/
def empty : Settings := ⟨[], [], [], 0, .empty⟩

/-- The chosen log level, or nothing if none is chosen. -/
def level? (s : Settings) : Except Unknown (Option Log.Level) :=
  if s.logLevel.isEmpty then .ok none
  else (Log.Level.parse s.logLevel).map some

/-- The chosen policies, for a log at the given level. -/
def policies (s : Settings) (level : Log.Level) : Except Unknown Policies := do
  let fatal ← FatalPolicy.parse s.fatalPolicy
  let seed ← SeedPolicy.parse s.seedPolicy
  pure ⟨fatal, seed, Policies.limitFor s.maxDepth, level⟩

/-- Binds configured data in a scope, in order. The first datum without a value is refused and ends
this; what was bound before stays. -/
def bindAll (e : ScopeId) : List (Text × Datum) → Heap → Option Refusal × Heap
  | [], h => (none, h)
  | (name, datum) :: rest, h =>
    match datum.toValue with
    | .error cause => (some ⟨name, cause⟩, h)
    | .ok v => bindAll e rest (h.set e name v)

/-- Binds what the settings configure in a scope, in ascending order of the names. -/
def seed (s : Settings) (e : ScopeId) (h : Heap) : Option Refusal × Heap := bindAll e s.bindings h

/-- A new session under the settings, on a heap with a log at the given level. -/
def sessionOn (s : Settings) (registry : Registry) (heap : Heap) (level : Log.Level) :
    Except Failure Session :=
  match s.policies level with
  | .error e => .error (.unknown e)
  | .ok policies =>
    let session := Session.on policies registry heap
    match s.seed session.root session.world.heap with
    | (some refusal, _) => .error refusal.failure
    | (none, h) => .ok (session.withHeap h)

/-- A new session under the settings, with the base operations. -/
def session (s : Settings) (level : Log.Level) : Except Failure Session :=
  s.sessionOn .base .empty level

end Settings

end Lisplet.Config
