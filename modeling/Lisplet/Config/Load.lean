import Lisplet.Config.Settings
import Lisplet.Config.Table

/-!
# Settings from a document

The settings are read from a document that is a mapping. Names that are not known are ignored, and
a name without a value chooses nothing. Anything that does not fit makes the whole document
malformed.
-/

namespace Lisplet.Config

/-- A number without its fraction. Numbers below the range of 64 bits, and its upper end, count as
the least number. -/
def truncated (x : Float) : Option Int :=
  if x ≤ 9223372036854775808.0 then
    if x < -9223372036854775808.0 || x == 9223372036854775808.0 then some (-(signedEnd : Int))
    else some x.toInt64.toInt
  else none

/-- The number that a scalar gives to a setting. -/
def Node.settingNumber? (n : Node) : Option (Option Int) :=
  match n.scalarDatum? with
  | some .null => some none
  | some (.int k) => if k < (signedEnd : Int) then some (some k) else none
  | some (.float x) => (truncated x).map some
  | _ => none

/-- The bindings that a node gives to the settings. -/
def Node.settingBindings? (n : Node) : Option (Option (Dictionary Datum)) :=
  if n.isNull then some none else do
    let layer ← n.layer?
    layer.dictionary?.map some

namespace Settings

/-- The settings with one of them read from a node. -/
def read? (s : Settings) (name : Text) (v : Node) : Option Settings :=
  if name = text "log_level" then
    v.plainText?.map fun t => { s with logLevel := t.getD s.logLevel }
  else if name = text "fatal_policy" then
    v.plainText?.map fun t => { s with fatalPolicy := t.getD s.fatalPolicy }
  else if name = text "seed_policy" then
    v.plainText?.map fun t => { s with seedPolicy := t.getD s.seedPolicy }
  else if name = text "max_depth" then
    v.settingNumber?.map fun n => { s with maxDepth := n.getD s.maxDepth }
  else if name = text "bindings" then
    v.settingBindings?.map fun b => { s with bindings := b.getD s.bindings }
  else some s

/-- The settings that a document gives. -/
def ofNode? (n : Node) : Option Settings :=
  if n.isNull then some .empty
  else do
    let layer ← n.layer?
    let entries ← layer.entries? Layer.textKey
    entries.foldlM (fun s (key, entry) =>
      match key with
      | .str name => s.read? name entry.node
      | _ => some s) .empty

/-- The settings that a text gives. -/
def parse (t : Text) : Except Failure Settings :=
  match (readDocument t).bind ofNode? with
  | some s => .ok s
  | none => .error .malformed

end Settings

end Lisplet.Config
