import Lisplet.Value.Basic

/-!
# Kinds of values

Every value has a kind, apart from one that was never given any. The accessors hand out the contents
of a value of the kind they are for and refuse all others.
-/

namespace Lisplet

/-- A type tag: two tags denote the same kind if their numbers agree. -/
structure TypeTag where
  /-- The number that identifies the kind. -/
  number : Int
  /-- The name that is shown. -/
  name : Text

namespace TypeTag

/-- Whether two tags denote the same kind. A missing tag is the same only as a missing tag. -/
def same : Option TypeTag → Option TypeTag → Bool
  | none, none => true
  | some a, some b => a.number == b.number
  | _, _ => false

/-- The name of a tag, or what is shown for a missing one. -/
def display : Option TypeTag → Text
  | none => text "<nil_type>"
  | some tag => tag.name

end TypeTag

/-- The kinds that values come in. -/
inductive Kind where
  | nil
  | num
  | str
  | sym
  | atom
  | bool
  | list
  | func
  deriving DecidableEq, Repr

namespace Kind

/-- All kinds, in the order of their numbers. -/
def all : List Kind := [.nil, .num, .str, .sym, .atom, .bool, .list, .func]

/-- The name of a kind. -/
def name : Kind → Text
  | .nil => text "None"
  | .num => text "Num"
  | .str => text "Str"
  | .sym => text "Sym"
  | .atom => text "Atom"
  | .bool => text "Bool"
  | .list => text "List"
  | .func => text "Func"

/-- The number of a kind; zero is left to unknown ones. -/
def number : Kind → Int
  | .nil => 1
  | .num => 2
  | .str => 3
  | .sym => 4
  | .atom => 5
  | .bool => 6
  | .list => 7
  | .func => 8

/-- The tag of a kind. -/
def tag (k : Kind) : TypeTag := ⟨k.number, k.name⟩

end Kind

/-- The refusal of an accessor. -/
structure KindMismatch where
  /-- The kind that was asked for. -/
  wanted : Kind
  /-- The kind that was there, if any. -/
  found : Option Kind

/-- The message of a refusal. -/
def KindMismatch.message (e : KindMismatch) : Text :=
  text "type mismatch: cannot get " ++ e.wanted.name ++ text ", value is type "
    ++ TypeTag.display (e.found.map Kind.tag)

namespace Value

/-- The kind of a value. -/
def kind? : Value → Option Kind
  | .nil => some .nil
  | .untyped => none
  | .num _ => some .num
  | .str _ => some .str
  | .sym _ => some .sym
  | .atom _ => some .atom
  | .bool _ => some .bool
  | .list _ => some .list
  | .func _ _ _ => some .func

/-- Whether a value is of a kind. A value without a kind counts as absence. -/
def is (v : Value) (k : Kind) : Bool :=
  if v.isNil then k == .nil else TypeTag.same (v.kind?.map Kind.tag) (some k.tag)

/-- The number of a number. -/
def getNum : Value → Except KindMismatch Float
  | .num n => .ok n
  | v => .error ⟨.num, v.kind?⟩

/-- The contents of a text. -/
def getString : Value → Except KindMismatch Text
  | .str t => .ok t
  | v => .error ⟨.str, v.kind?⟩

/-- The name of a symbol. -/
def getSymbol : Value → Except KindMismatch Text
  | .sym name => .ok name
  | v => .error ⟨.sym, v.kind?⟩

/-- The truth of a truth value. -/
def getBool : Value → Except KindMismatch Bool
  | .bool b => .ok b
  | v => .error ⟨.bool, v.kind?⟩

/-- The items of a list. -/
def getList : Value → Except KindMismatch (List Value)
  | .list items => .ok items
  | v => .error ⟨.list, v.kind?⟩

/-- The parameters and the body of a function. -/
def getFunc : Value → Except KindMismatch (Value × Value)
  | .func _ params body => .ok (params, body)
  | v => .error ⟨.func, v.kind?⟩

end Value

end Lisplet
