import Lisplet.Config.Moment
import Lisplet.Decimal.Layout
import Lisplet.Decimal.Parse
import Lisplet.Dictionary
import Lisplet.Value.Basic

/-!
# Configured data

A binding in a configuration is given as a datum. Absence, truth values, numbers, texts and lists
of these become values of the language. All other data are refused, with a message that shows the
datum and its type.
-/

namespace Lisplet.Config

/-- A datum of a configuration. -/
inductive Datum where
  /-- Absence. -/
  | null
  /-- A truth value. -/
  | bool (b : Bool)
  /-- A whole number. -/
  | int (n : Int)
  /-- A floating-point number. -/
  | float (x : Float)
  /-- A text. -/
  | str (t : Text)
  /-- A list of any data. -/
  | list (items : List Datum)
  /-- A whole number of 32 bits. -/
  | narrow (n : Int)
  /-- A floating-point number of single precision. -/
  | single (x : Float32)
  /-- A list of texts only. -/
  | texts (items : List Text)
  /-- A table with texts as keys, in ascending order. -/
  | table (entries : List (Text × Datum))
  /-- A table with any keys, in ascending order. -/
  | anyTable (entries : List (Datum × Datum))
  /-- A point in time. -/
  | time (m : Moment)
  deriving Inhabited

namespace Datum

/-- The name of a datum's type in messages. -/
def typeName : Datum → Text
  | .null => text "<nil>"
  | .bool _ => text "bool"
  | .int _ => text "int"
  | .float _ => text "float64"
  | .str _ => text "string"
  | .list _ => text "[]interface \x7b\x7d"
  | .narrow _ => text "int32"
  | .single _ => text "float32"
  | .texts _ => text "[]string"
  | .table _ => text "map[string]interface \x7b\x7d"
  | .anyTable _ => text "map[interface \x7b\x7d]interface \x7b\x7d"
  | .time _ => text "time.Time"

mutual

/-- A datum in words. -/
def describe : Datum → Text
  | .null => text "<nil>"
  | .bool b => text (if b then "true" else "false")
  | .int n => Text.ofInt n
  | .float x => Decimal.render .foreign x
  | .str t => t
  | .list items => text "[" ++ Text.join (text " ") (describeItems items) ++ text "]"
  | .narrow n => Text.ofInt n
  | .single x => Decimal.renderSingle .foreign x
  | .texts items => text "[" ++ Text.join (text " ") items ++ text "]"
  | .table entries => text "map[" ++ Text.join (text " ") (describeEntries entries) ++ text "]"
  | .anyTable entries => text "map[" ++ Text.join (text " ") (describePairs entries) ++ text "]"
  | .time m => m.describe

/-- The items of a list in words. -/
def describeItems : List Datum → List Text
  | [] => []
  | item :: rest => describe item :: describeItems rest

/-- The entries of a table in words. -/
def describeEntries : List (Text × Datum) → List Text
  | [] => []
  | (key, item) :: rest => (key ++ text ":" ++ describe item) :: describeEntries rest

/-- The entries of a table with any keys in words. -/
def describePairs : List (Datum × Datum) → List Text
  | [] => []
  | (key, item) :: rest => (describe key ++ text ":" ++ describe item) :: describePairs rest

end

end Datum

/-- A datum that has no value in the language. -/
structure Unsupported where
  /-- The places that lead to the datum, from the outermost list inwards. -/
  path : List Nat
  /-- The datum. -/
  datum : Datum

/-- The message on a datum without a value. -/
def Unsupported.message (u : Unsupported) : Text :=
  u.path.foldr (fun i inner => text "item " ++ Text.ofNat i ++ text ": " ++ inner)
    (text "unsupported value " ++ u.datum.describe ++ text " (" ++ u.datum.typeName ++ text ")")

namespace Datum

/-- The number nearest to a whole number. -/
def numberOf (n : Int) : Float := Decimal.nearest (n < 0) n.natAbs 0

mutual

/-- The value that a datum stands for. -/
def toValue : Datum → Except Unsupported Value
  | .null => .ok .nil
  | .bool b => .ok (.bool b)
  | .int n => .ok (.num (numberOf n))
  | .float x => .ok (.num x)
  | .str t => .ok (.str t)
  | .list items =>
    match itemValues 0 items with
    | .ok values => .ok (.list values)
    | .error u => .error u
  | d => .error ⟨[], d⟩

/-- The values of the items of a list, the first of which has the given place. -/
def itemValues : (place : Nat) → List Datum → Except Unsupported (List Value)
  | _, [] => .ok []
  | place, item :: rest =>
    match toValue item with
    | .error u => .error { u with path := place :: u.path }
    | .ok v =>
      match itemValues (place + 1) rest with
      | .error u => .error u
      | .ok vs => .ok (v :: vs)

end

end Datum

end Lisplet.Config
