import Lisplet.Evaluator.Operation

/-!
# Evaluating expressions

A symbol evaluates to what it is bound to, a non-empty list applies the operation that its head
names, and everything else evaluates to itself. Special forms come before operations. What has no
meaning, such as an unbound symbol or an unknown operation, evaluates to absence.
-/

namespace Lisplet

namespace SpecialForm

/-- Evaluates one of two branches, or gives absence if the second is chosen and missing. -/
def runConditional (self : Evaluator) (env : ScopeId) (args : List Value) : Evaluation Value :=
  match args with
  | condition :: first :: rest => do
    let c ← self env condition
    if c.isTruthy then self env first
    else match rest with
      | [] => pure .nil
      | second :: _ => self env second
  | _ => .misuse ⟨.conditional, args, .missingBranch⟩

/-- The name that a binding form is about. -/
def symbolOf (form : SpecialForm) (args : List Value) : Evaluation Text :=
  match args with
  | [] => .misuse ⟨form, args, .missingSymbol⟩
  | .sym name :: _ => pure name
  | v :: _ => .misuse ⟨form, args, .notASymbol v⟩

/-- The value that a binding form binds: that of its second argument, or absence. -/
def valueOf (self : Evaluator) (env : ScopeId) (args : List Value) : Evaluation Value :=
  match args with
  | _ :: e :: _ => self env e
  | _ => pure .nil

/-- Binds a symbol in the current scope. -/
def runDefine (self : Evaluator) (env : ScopeId) (args : List Value) : Evaluation Value := do
  let name ← symbolOf .define args
  let v ← valueOf self env args
  let h ← Evaluation.heap
  Evaluation.putHeap (h.set env name v)
  pure v

/-- Replaces the innermost binding of a symbol. It has to be bound before its value is
evaluated. -/
def runAssign (self : Evaluator) (env : ScopeId) (args : List Value) : Evaluation Value := do
  let name ← symbolOf .assign args
  let h ← Evaluation.heap
  if h.has env name then
    let v ← valueOf self env args
    let h ← Evaluation.heap
    Evaluation.putHeap ((h.assign? env name v).getD h)
    pure v
  else .misuse ⟨.assign, args, .notBound name⟩

/-- Checks that the current scope does not hold the name of a function. Nothing is bound. -/
def runFunction (env : ScopeId) (args : List Value) : Evaluation Value := do
  let name ← symbolOf .function args
  let h ← Evaluation.heap
  if h.hasLocal env name then .misuse ⟨.function, args, .alreadyBound name⟩
  else pure .nil

/-- Runs a special form. -/
def run (form : SpecialForm) (self : Evaluator) (env : ScopeId) (args : List Value) :
    Evaluation Value :=
  match form with
  | .sequence => self.inOrder env .nil args
  | .conditional => runConditional self env args
  | .define => runDefine self env args
  | .assign => runAssign self env args
  | .function => runFunction env args

end SpecialForm

namespace Registry

/-- Applies the special form or operation with a given name. -/
def apply (r : Registry) (self : Evaluator) (env : ScopeId) (name : Text) (args : List Value) :
    Evaluation Value :=
  match SpecialForm.ofName? name with
  | some form => form.run self env args
  | none =>
    match r.get? name with
    | some operation => operation self env args
    | none => do
      Evaluation.note .debug
        (text "unknown operator " ++ name.quoted ++ text " evaluates to nil")
      pure .nil

/-- The value that a symbol is bound to. -/
def valueOfSymbol (env : ScopeId) (name : Text) : Evaluation Value := do
  let h ← Evaluation.heap
  match h.lookup? env name with
  | some v => pure v.clone
  | none => do
    Evaluation.note .debug
      (text "unresolved symbol " ++ name.quoted ++ text " evaluates to nil")
    pure .nil

/-- Evaluates an expression, given a way to evaluate the expressions inside it. -/
def step (r : Registry) (self : Evaluator) : Evaluator := fun env e =>
  match e with
  | .nil => pure .nil
  | .untyped => pure .nil
  | .sym name => valueOfSymbol env name
  | .list (head :: args) => r.apply self env head.headText args
  | e => pure e

/-- Evaluates an expression while no more than `room` evaluations are nested. -/
def evaluateWithin (r : Registry) : (room : Nat) → Evaluator
  | 0 => fun _ e p w => (.failed ⟨.tooDeep p.limit e, .nil⟩, w)
  | room + 1 => fun env e => .nested (r.step (evaluateWithin r room) env e)

/-- Evaluates an expression. The policies limit how deeply evaluation nests. -/
def evaluate (r : Registry) : Evaluator := fun env e p w =>
  r.evaluateWithin (p.limit - w.depth) env e p w

/-- Reads one expression from a text and evaluates it. -/
def evalText (r : Registry) (env : ScopeId) (code : Text) : Evaluation Value :=
  r.evaluate.evalText env code

/-- Evaluates the expressions of a text in order. -/
def script (r : Registry) (env : ScopeId) (code : Text) : Evaluation Value :=
  r.evaluate.script env code

end Registry

end Lisplet
