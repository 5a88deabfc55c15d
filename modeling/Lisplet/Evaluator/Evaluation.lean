import Lisplet.Environment
import Lisplet.Evaluator.Policies
import Lisplet.Failure

/-!
# Evaluations

An evaluation runs under some policies and changes a world: the heap of environments, the log, and
the count of evaluations in progress. It ends with a result, fails, or is broken off. Failing and
breaking off both keep what was done to the world before. An evaluation that fails hands back a
value too, beside its failure.
-/

namespace Lisplet

/-- What an evaluation changes. -/
structure World where
  /-- The environments. -/
  heap : Heap
  /-- The messages so far, the oldest first. -/
  log : List Log.Record
  /-- The number of evaluations in progress, one inside the other. -/
  depth : Nat
  /-- The largest number of evaluations that were ever in progress. -/
  deepest : Nat

/-- What is handed back by an evaluation that fails. -/
structure FailedResult where
  /-- What went wrong. -/
  failure : Failure
  /-- The value that stands beside the failure. -/
  beside : Value

instance : Coe FailedResult Failure := ⟨FailedResult.failure⟩

/-- How an evaluation ends. -/
inductive Outcome (α : Type) where
  /-- With a result. -/
  | value (result : α)
  /-- With a failure that is handed back. -/
  | failed (result : FailedResult)
  /-- With a failure that breaks off everything in progress. -/
  | aborted (failure : Failure)

/-- An evaluation with a result in `α`. -/
def Evaluation (α : Type) := Policies → World → Outcome α × World

namespace Evaluation

variable {α β : Type}

/-- The evaluation that does nothing but give a result. -/
@[inline] def done (result : α) : Evaluation α := fun _ w => (.value result, w)

/-- One evaluation and then another, unless the first gives no result. A failure of the first is
handed on beside absence, whatever stood beside it. -/
@[inline] def andThen (first : Evaluation α) (next : α → Evaluation β) : Evaluation β :=
  fun p w =>
    match first p w with
    | (.value result, w) => next result p w
    | (.failed result, w) => (.failed ⟨result.failure, .nil⟩, w)
    | (.aborted failure, w) => (.aborted failure, w)

instance : Monad Evaluation where
  pure := done
  bind := andThen

/-- The policies in force. -/
@[inline] def policies : Evaluation Policies := fun p w => (.value p, w)

/-- The environments as they are. -/
@[inline] def heap : Evaluation Heap := fun _ w => (.value w.heap, w)

/-- Replaces the environments. -/
@[inline] def putHeap (h : Heap) : Evaluation Unit := fun _ w => (.value (), { w with heap := h })

/-- Fails, with absence beside the failure. -/
@[inline] def fail (failure : Failure) : Evaluation α := fun _ w => (.failed ⟨failure, .nil⟩, w)

/-- Logs a message, if the log takes its level. -/
def note (level : Log.Level) (message : Text) : Evaluation Unit := fun p w =>
  if p.level.takes level then (.value (), { w with log := w.log ++ [⟨level, message⟩] })
  else (.value (), w)

/-- Ends because of a misused form, in the way of the policy. The error is logged first. -/
def misuse (e : FormError) : Evaluation α := do
  note .warn e.message
  fun p w =>
    match p.fatal with
    | .fail => (.failed ⟨.misuse e, .nil⟩, w)
    | .abort => (.aborted (.misuse e), w)

/-- Counts an evaluation as in progress while it runs, however it ends. -/
@[inline] def nested (inner : Evaluation α) : Evaluation α := fun p w =>
  match inner p { w with depth := w.depth + 1, deepest := max w.deepest (w.depth + 1) } with
  | (outcome, w) => (outcome, { w with depth := w.depth - 1 })

end Evaluation

/-- A way to evaluate expressions in an environment. -/
abbrev Evaluator := ScopeId → Value → Evaluation Value

namespace Evaluator

/-- Evaluates expressions in order. The result is that of the last one. -/
def inOrder (self : Evaluator) (env : ScopeId) : (last : Value) → List Value → Evaluation Value
  | last, [] => pure last
  | _, e :: rest => do
    let v ← self env e
    inOrder self env v rest

/-- Evaluates expressions in order. The result lists all their values. -/
def each (self : Evaluator) (env : ScopeId) : List Value → Evaluation (List Value)
  | [] => pure []
  | e :: rest => do
    let v ← self env e
    let vs ← each self env rest
    pure (v :: vs)

/-- The number that the value of an expression counts as. -/
def number (self : Evaluator) (env : ScopeId) (e : Value) : Evaluation Float := do
  let v ← self env e
  pure v.asNum

/-- Combines the numbers of expressions, in order, into an initial one. -/
def combine (self : Evaluator) (env : ScopeId) (f : Float → Float → Float) :
    (total : Float) → List Value → Evaluation Float
  | total, [] => pure total
  | total, e :: rest => do
    let n ← self.number env e
    combine self env f (f total n) rest

end Evaluator

end Lisplet
