import Lisplet.Evaluator.Evaluation
import Lisplet.Reader.Source

/-!
# Operations

An operation gets its arguments as they are written and decides itself which of them to evaluate.
A registry holds the operations by name.
-/

namespace Lisplet

/-- What an operation does with an evaluator, an environment and its arguments. -/
abbrev Operation := Evaluator → ScopeId → List Value → Evaluation Value

/-- Operations by name. -/
abbrev Registry := Dictionary Operation

namespace Evaluator

/-- Reads one expression from a text and evaluates it. A text that cannot be read is logged as an
error and gives absence. -/
def evalText (self : Evaluator) (env : ScopeId) (code : Text) : Evaluation Value :=
  match parse code with
  | .error e => do
    Evaluation.note .error (text "Error " ++ e.message)
    pure .nil
  | .ok e => self env e

/-- Evaluates the expressions of a text in order. The result is that of the last one. Nothing is
evaluated if the text cannot be read. -/
def script (self : Evaluator) (env : ScopeId) (code : Text) : Evaluation Value :=
  match parseAll code with
  | .error e => .fail (.within (text "parse failed") (.unreadable e))
  | .ok forms => self.inOrder env .nil forms

end Evaluator

namespace Operation

/-- Evaluates its argument, and then the result once more. A text is read first. -/
def eval : Operation := fun self env args =>
  match args with
  | [] => pure .nil
  | e :: _ => do
    let v ← self env e
    match v with
    | .str code => self.evalText env code
    | v => self env v

/-- Adds its arguments to zero. -/
def add : Operation := fun self env args => do
  let total ← self.combine env (· + ·) 0.0 args
  pure (.num total)

/-- Multiplies one by its arguments. -/
def multiply : Operation := fun self env args => do
  let total ← self.combine env (· * ·) 1.0 args
  pure (.num total)

/-- The number of the first argument, which the policy tells to evaluate or not. -/
def seed (self : Evaluator) (env : ScopeId) (e : Value) : Evaluation Float := do
  let p ← Evaluation.policies
  match p.seed with
  | .raw => pure e.asNum
  | .evaluated => self.number env e

/-- Combines the numbers of all further arguments into that of the first. Without arguments the
result is zero. -/
def fold (f : Float → Float → Float) : Operation := fun self env args =>
  match args with
  | [] => pure (.num 0.0)
  | e :: rest => do
    let first ← seed self env e
    let total ← self.combine env f first rest
    pure (.num total)

/-- Subtracts all further arguments from the first. -/
def subtract : Operation := fold (· - ·)

/-- Divides the first argument by all further ones. -/
def divide : Operation := fold (· / ·)

/-- Whether the values of expressions all equal a given value. The first that does not ends the
comparison. -/
def allEqual (self : Evaluator) (env : ScopeId) (head : Value) : List Value → Evaluation Bool
  | [] => pure true
  | e :: rest => do
    let v ← self env e
    if head.equals v then allEqual self env head rest else pure false

/-- The value of the first argument, which the policy tells to evaluate or not. -/
def seedValue (self : Evaluator) (env : ScopeId) (e : Value) : Evaluation Value := do
  let p ← Evaluation.policies
  match p.seed with
  | .raw => pure e
  | .evaluated => self env e

/-- Compares all further arguments with the first. -/
def equal : Operation := fun self env args =>
  match args with
  | [] => pure (.bool true)
  | e :: rest => do
    let head ← seedValue self env e
    let result ← allEqual self env head rest
    pure (.bool result)

/-- Gives its first argument as it is written. -/
def quote : Operation := fun _ _ args => pure (args.head?.getD .nil)

/-- Lists the values of its arguments. -/
def list : Operation := fun self env args => do
  let vs ← self.each env args
  pure (.list vs)

/-- Counts its arguments and evaluates none. -/
def count : Operation := fun _ _ args => pure (.num (Float.ofNat args.length))

/-- Fails with a message. -/
def failing (message : Text) : Operation := fun _ _ _ => .fail (.plain message)

/-- Evaluates its arguments in order, in a new scope inside the current one. -/
def scope : Operation := fun self env args => do
  let h ← Evaluation.heap
  let (inner, h) := h.push env
  Evaluation.putHeap h
  self.inOrder inner .nil args

/-- Gives a fixed value. -/
def const (v : Value) : Operation := fun _ _ _ => pure v

end Operation

namespace Registry

/-- The operations of every new registry. -/
def base : Registry :=
  Dictionary.ofList
    [(text "eval", Operation.eval), (text "=", Operation.equal), (text "+", Operation.add),
      (text "*", Operation.multiply), (text "-", Operation.subtract), (text "/", Operation.divide)]

end Registry

end Lisplet
