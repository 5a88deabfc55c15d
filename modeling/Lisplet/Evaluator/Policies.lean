import Lisplet.Log.Level

/-!
# Policies of an evaluator

The policies say what happens when a special form is misused, what subtraction, division and
comparison begin with, how deeply evaluation may nest, and which messages are logged.
-/

namespace Lisplet

/-- What happens when a special form is misused. -/
inductive FatalPolicy where
  /-- The evaluation fails. -/
  | fail
  /-- The evaluation is broken off. -/
  | abort
  deriving DecidableEq, Repr

namespace FatalPolicy

/-- The name of a policy. -/
def name : FatalPolicy → Text
  | .fail => text "return"
  | .abort => text "panic"

/-- The number of a policy. -/
def number : FatalPolicy → Nat
  | .fail => 0
  | .abort => 1

/-- The policy with a given number; all numbers but one mean failure. -/
def ofNumber (n : Int) : FatalPolicy := if n = 1 then .abort else .fail

/-- The policy with a given spelling, in whatever case. -/
def parse (t : Text) : Except Unknown FatalPolicy :=
  let spelling := t.toSmall
  if [[], text "return", text "error"].contains spelling then .ok .fail
  else if [text "panic", text "abort"].contains spelling then .ok .abort
  else .error ⟨text "fatal policy", t⟩

end FatalPolicy

/-- What subtraction, division and comparison begin with. -/
inductive SeedPolicy where
  /-- The value of the first argument. -/
  | evaluated
  /-- The first argument as it is written. -/
  | raw
  deriving DecidableEq, Repr

namespace SeedPolicy

/-- The name of a policy. -/
def name : SeedPolicy → Text
  | .evaluated => text "evaluated"
  | .raw => text "raw"

/-- The number of a policy. -/
def number : SeedPolicy → Nat
  | .evaluated => 0
  | .raw => 1

/-- The policy with a given number; all numbers but one mean evaluation. -/
def ofNumber (n : Int) : SeedPolicy := if n = 1 then .raw else .evaluated

/-- The policy with a given spelling, in whatever case. -/
def parse (t : Text) : Except Unknown SeedPolicy :=
  let spelling := t.toSmall
  if [[], text "evaluated", text "eval"].contains spelling then .ok .evaluated
  else if spelling = text "raw" then .ok .raw
  else .error ⟨text "seed policy", t⟩

end SeedPolicy

/-- The policies of an evaluator. -/
structure Policies where
  /-- What happens when a special form is misused. -/
  fatal : FatalPolicy
  /-- What subtraction, division and comparison begin with. -/
  seed : SeedPolicy
  /-- How deeply evaluation may nest. -/
  limit : Nat
  /-- The level of the log. -/
  level : Log.Level
  deriving DecidableEq, Repr

namespace Policies

/-- The limit on nesting where none is chosen. -/
def usualLimit : Nat := 10000

/-- The limit for a chosen depth; a depth that is not positive chooses none. -/
def limitFor (depth : Int) : Nat := if depth ≤ 0 then usualLimit else depth.toNat

/-- The policies where nothing is chosen, with a log at the given level. -/
def usual (level : Log.Level) : Policies := ⟨.fail, .evaluated, usualLimit, level⟩

end Policies

end Lisplet
