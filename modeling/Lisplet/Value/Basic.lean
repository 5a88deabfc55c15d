import Lisplet.Decimal.Layout
import Lisplet.Text.Canonical

/-!
# Values

Programs and the data they work on are values. A value is nothing, a number, a text, a symbol, an
atom, a truth value, a list of values or a function. Lists are the form in which source text is
read, so every expression is a value too.
-/

namespace Lisplet

/-- The datum of the language. -/
inductive Value where
  /-- The value that stands for absence. -/
  | nil
  /-- A value that was never given a kind. It behaves as absence. -/
  | untyped
  /-- A number. -/
  | num (n : Float)
  /-- A text. -/
  | str (t : Text)
  /-- A symbol, which names a binding or an operation. -/
  | sym (name : Text)
  /-- An atom, a name that stands for itself. -/
  | atom (name : Text)
  /-- A truth value. -/
  | bool (b : Bool)
  /-- A list; the empty list is not absence. -/
  | list (items : List Value)
  /-- A function, known by its identity. -/
  | func (identity : Nat) (params body : Value)
  deriving Inhabited

namespace Value

/-- The symbol with a given name. Canonically equivalent spellings give one symbol. -/
def symbol (name : Text) : Value := .sym name.nfc

/-- Whether a value stands for absence. -/
def isNil : Value → Bool
  | .nil => true
  | .untyped => true
  | _ => false

/-- The items of a list; other values have none. -/
def items : Value → List Value
  | .list items => items
  | _ => []

/-- The number that a value counts as: itself for a number, zero for all else. -/
def asNum : Value → Float
  | .num n => n
  | _ => 0.0

/-- Whether a value selects the first branch of a conditional. Absence, falsehood and zero do
not. -/
def isTruthy : Value → Bool
  | .nil => false
  | .untyped => false
  | .bool b => b
  | .num n => n != 0.0
  | _ => true

mutual

/-- Whether two values are equal: lists item by item, functions by identity, numbers as numbers.
A number that is not a number equals nothing. -/
def equals : Value → Value → Bool
  | .nil, b => b.isNil
  | .untyped, b => b.isNil
  | .num a, .num b => a == b
  | .str a, .str b => a == b
  | .sym a, .sym b => a == b
  | .atom a, .atom b => a == b
  | .bool a, .bool b => a == b
  | .list as, .list bs => equalItems as bs
  | .func a _ _, .func b _ _ => a == b
  | _, _ => false

/-- Whether two lists have equal items in the same places. -/
def equalItems : List Value → List Value → Bool
  | [], [] => true
  | a :: as, b :: bs => equals a b && equalItems as bs
  | _, _ => false

end

mutual

/-- A copy of a value whose lists are new. -/
def clone : Value → Value
  | .list items => .list (cloneItems items)
  | v => v

/-- Copies of the items of a list. -/
def cloneItems : List Value → List Value
  | [] => []
  | v :: rest => clone v :: cloneItems rest

end

mutual

/-- The source text of a value, with another text behind it. -/
def sourceOnto : Value → (behind : Text) → Text
  | .nil, behind => text "nil" ++ behind
  | .untyped, behind => text "nil" ++ behind
  | .num n, behind => Decimal.sourceText n ++ behind
  | .str t, behind => text "\"" ++ (t ++ (text "\"" ++ behind))
  | .sym name, behind => name ++ behind
  | .atom name, behind => name ++ behind
  | .bool true, behind => text "#t" ++ behind
  | .bool false, behind => text "#f" ++ behind
  | .list items, behind => text "(" ++ sourceItemsOnto items (text ")" ++ behind)
  | .func _ params _, behind => text "<fun " ++ sourceOnto params (text ">" ++ behind)

/-- The source texts of the items of a list, with a blank between neighbours and another text
behind the last. -/
def sourceItemsOnto : List Value → (behind : Text) → Text
  | [], behind => behind
  | [v], behind => sourceOnto v behind
  | v :: rest, behind => sourceOnto v (text " " ++ sourceItemsOnto rest behind)

end

/-- The value as source text. -/
def source (v : Value) : Text := v.sourceOnto []

/-- The text by which the head of an expression names an operation: the name of a symbol or atom,
the contents of a text, and the source text of all else. -/
def headText : Value → Text
  | .sym name => name
  | .str t => t
  | .atom name => name
  | v => v.source

end Value

end Lisplet
