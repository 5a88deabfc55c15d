import Lisplet.Value.Basic

/-!
# Special forms

The evaluator treats a few names itself. An error in their use names the form, the expression and
the reason.
-/

namespace Lisplet

/-- The forms that the evaluator treats itself. -/
inductive SpecialForm where
  /-- Evaluates its arguments in order. -/
  | sequence
  /-- Chooses between two branches. -/
  | conditional
  /-- Binds a symbol in the current scope. -/
  | define
  /-- Replaces the innermost binding of a symbol. -/
  | assign
  /-- Checks the name of a function. -/
  | function
  deriving DecidableEq, Repr

namespace SpecialForm

/-- The name of a form. -/
def name : SpecialForm → Text
  | .sequence => text "do"
  | .conditional => text "if"
  | .define => text "def"
  | .assign => text "set"
  | .function => text "fun"

/-- All forms. -/
def all : List SpecialForm := [.sequence, .conditional, .define, .assign, .function]

/-- The form with a given name. -/
def ofName? (t : Text) : Option SpecialForm := all.find? fun form => form.name == t

end SpecialForm

/-- Whether a name belongs to a special form. -/
def isSpecialForm (t : Text) : Bool := (SpecialForm.ofName? t).isSome

/-- What is wrong with the use of a special form. -/
inductive Misuse where
  /-- A conditional without a condition or a first branch. -/
  | missingBranch
  /-- A binding form without arguments. -/
  | missingSymbol
  /-- A binding form whose first argument is no symbol. -/
  | notASymbol (found : Value)
  /-- An assignment to a symbol without a binding. -/
  | notBound (name : Text)
  /-- A function under a name that the scope already holds. -/
  | alreadyBound (name : Text)

namespace Misuse

/-- The class of a misuse. -/
def category : Misuse → Text
  | .missingBranch => text "missing arguments"
  | .missingSymbol => text "missing arguments"
  | .notASymbol _ => text "expected a symbol"
  | .notBound _ => text "symbol is not bound"
  | .alreadyBound _ => text "symbol is already bound"

/-- What a message says behind the class of a misuse. -/
def detail : Misuse → Text
  | .missingBranch => text ": need a condition and a then branch"
  | .missingSymbol => text ": need a symbol"
  | .notASymbol found => text ", got " ++ found.source
  | .notBound name => text ": " ++ name
  | .alreadyBound name => text ": " ++ name

/-- A misuse in words. -/
def message (m : Misuse) : Text := m.category ++ m.detail

end Misuse

/-- An error in the use of a special form. -/
structure FormError where
  /-- The form. -/
  form : SpecialForm
  /-- What it was applied to. -/
  arguments : List Value
  /-- What is wrong. -/
  misuse : Misuse

namespace FormError

/-- The expression in question. -/
def expression (e : FormError) : Value := .list (.symbol e.form.name :: e.arguments)

/-- The message of an error. -/
def message (e : FormError) : Text :=
  e.form.name ++ text ": " ++ e.misuse.message ++ text " in " ++ e.expression.source

end FormError

end Lisplet
