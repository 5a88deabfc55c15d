import Lisplet.Config.Resolve

/-!
# Tables

A mapping stands for a table. A mapping can take the entries of others in, under a key of two angle
brackets; its own entries count before these. No two keys of a mapping may be written alike.
-/

namespace Lisplet.Config

namespace Datum

/-- The rank of a datum's kind among keys of one table. Numbers that fit into 64 bits only without a
sign are a kind of their own. -/
def keyRank : Datum → Nat
  | .null => 0
  | .bool _ => 1
  | .float _ => 2
  | .int n => if n < (signedEnd : Int) then 3 else 5
  | .str _ => 4
  | .time _ => 6
  | _ => 7

/-- Whether a key comes before another in a table. What is no number comes before all numbers. -/
def keyBefore : Datum → Datum → Bool
  | .bool a, .bool b => !a && b
  | .float a, .float b => a < b || (a.isNaN && !b.isNaN)
  | .str a, .str b => a.before b
  | .time a, .time b => a.before b
  | .int a, .int b =>
    if (Datum.int a).keyRank == (Datum.int b).keyRank then a < b
    else (Datum.int a).keyRank < (Datum.int b).keyRank
  | a, b => a.keyRank < b.keyRank

/-- Whether two keys are the same. What is no number differs from everything. -/
def sameKey : Datum → Datum → Bool
  | .null, .null => true
  | .bool a, .bool b => a == b
  | .float a, .float b => a == b
  | .int a, .int b => a == b
  | .str a, .str b => a == b
  | .time a, .time b => a.same b
  | _, _ => false

end Datum

/-- Puts an entry into a table with any keys, in place of one with the same key. -/
def insertPair (key v : Datum) : List (Datum × Datum) → List (Datum × Datum)
  | [] => [(key, v)]
  | (k, old) :: rest =>
    if key.sameKey k then (key, v) :: rest
    else if key.keyBefore k then (key, v) :: (k, old) :: rest
    else (k, old) :: insertPair key v rest

/-- The datum of a scalar. -/
def scalarDatum (plain : Bool) (contents : Text) : Datum :=
  if plain then resolve contents else .str contents

namespace Node

/-- The datum of a scalar. -/
def scalarDatum? : Node → Option Datum
  | .scalar plain contents => some (scalarDatum plain contents)
  | _ => none

/-- Whether a node stands for absence. -/
def isNull (n : Node) : Bool :=
  match n.scalarDatum? with
  | some .null => true
  | _ => false

/-- Whether a node stands for a text. -/
def isText (n : Node) : Bool :=
  match n.scalarDatum? with
  | some (.str _) => true
  | _ => false

/-- The contents of a scalar. -/
def contents? : Node → Option Text
  | .scalar _ contents => some contents
  | _ => none

/-- The text that a scalar gives, whatever its contents spell. Absence gives none. -/
def plainText? (n : Node) : Option (Option Text) :=
  if n.isNull then some none else n.contents?.map some

/-- What two keys of one mapping must not share: the kind and the contents of a node. -/
def spelling : Node → Nat × Text
  | .scalar _ contents => (0, contents)
  | .sequence _ => (1, [])
  | .mapping _ => (2, [])

/-- The contents of the key that takes in other mappings. -/
def inclusion : Text := text "<<"

/-- Whether a key takes in other mappings. -/
def isInclusion : Node → Bool
  | .scalar true contents => contents == inclusion
  | _ => false

end Node

/-- Whether no two entries have keys that are written alike. -/
def distinctKeys (entries : List (Node × Node)) : Bool :=
  let keys := entries.map fun entry => entry.1.spelling
  keys.eraseDups.length == keys.length

/-- An entry of a mapping. -/
structure Entry where
  /-- The key. -/
  key : Node
  /-- The node that belongs to it. -/
  node : Node
  /-- The datum of that node, if it has one. -/
  datum : Option Datum

/-- A mapping with the mappings that it takes in. -/
inductive Layer where
  /-- The entries of the mapping itself, and the mappings that it takes in. -/
  | mk (own : List Entry) (others : List Layer)

/-- The entries that count, each with its key, and the keys that count no more. -/
structure Visible where
  /-- The entries. -/
  entries : List (Datum × Entry)
  /-- The keys of entries that hide later ones with the same key; none are kept outside mappings
  that are taken in. -/
  seen : Option (List Datum)

namespace Layer

/-- What stands for a key in a table, if the key can stand in it. Some keys are left out. -/
abbrev KeyRule := Node → Option (Option Datum)

/-- A table takes all scalars as keys. -/
def anyKey : KeyRule := fun n => n.scalarDatum?.map some

/-- A table with texts as keys takes all scalars as texts, and leaves out absence. -/
def textKey : KeyRule := fun n => n.plainText?.map fun t => t.map Datum.str

/-- The entries of a mapping that count by themselves. -/
def visibleOwn (rule : KeyRule) : (seen : Option (List Datum)) → List Entry → Option Visible
  | seen, [] => some ⟨[], seen⟩
  | seen, entry :: rest => do
    match ← rule entry.key with
    | none => visibleOwn rule seen rest
    | some key =>
      if seen.any fun keys => keys.any key.sameKey then visibleOwn rule seen rest
      else
        let v ← visibleOwn rule (seen.map (key :: ·)) rest
        some { v with entries := (key, entry) :: v.entries }

/-- The keys of entries, as they are without regard to a table, and the one for taking in. -/
def spelledKeys (own : List Entry) : List Datum :=
  .str Node.inclusion :: own.filterMap fun entry => entry.key.scalarDatum?

mutual

/-- The entries of a mapping that count, in front of those of the mappings that it takes in. -/
def visible (rule : KeyRule) (seen : Option (List Datum)) : Layer → Option Visible
  | .mk own others => do
    let v ← visibleOwn rule seen own
    let inner ← visibleAll rule (v.seen.getD (spelledKeys own)) others
    some ⟨v.entries ++ inner.entries, if seen.isNone then none else inner.seen⟩

/-- The entries of some mappings that count, the first of which count before the others. -/
def visibleAll (rule : KeyRule) (seen : List Datum) : List Layer → Option Visible
  | [] => some ⟨[], some seen⟩
  | layer :: rest => do
    let v ← visible rule (some seen) layer
    let behind ← visibleAll rule (v.seen.getD seen) rest
    some ⟨v.entries ++ behind.entries, behind.seen⟩

end

/-- The entries of a mapping that count. -/
def entries? (rule : KeyRule) (l : Layer) : Option (List (Datum × Entry)) :=
  (l.visible rule none).map Visible.entries

/-- The entries of a mapping that count, with data. -/
def pairs? (rule : KeyRule) (l : Layer) : Option (List (Datum × Datum)) := do
  (← l.entries? rule).mapM fun (key, entry) => entry.datum.map fun d => (key, d)

/-- The entries of a mapping that count, with texts as keys and with data. -/
def dictionary? (l : Layer) : Option (Dictionary Datum) := do
  let pairs ← l.pairs? textKey
  some (Dictionary.ofList (pairs.filterMap fun (key, d) =>
    match key with
    | .str t => some (t, d)
    | _ => none))

/-- The table that a mapping stands for. It has texts as keys if all keys of the mapping itself are
texts. -/
def datum? (l : Layer) : Option Datum :=
  match l with
  | .mk own _ =>
    if own.all fun entry => entry.key.isText then l.dictionary?.map fun d => .table d
    else (l.pairs? anyKey).map fun pairs =>
      .anyTable (pairs.foldl (fun table entry => insertPair entry.1 entry.2 table) [])

end Layer

mutual

/-- The datum that a node stands for. -/
def Node.datum? : Node → Option Datum
  | .scalar plain contents => some (scalarDatum plain contents)
  | .sequence items => (itemData? items).map Datum.list
  | .mapping entries =>
    if distinctKeys entries then do (← layerOf? entries).datum? else none

/-- The data that the items of a sequence stand for. -/
def itemData? : List Node → Option (List Datum)
  | [] => some []
  | item :: rest => do
    let d ← item.datum?
    let ds ← itemData? rest
    some (d :: ds)

/-- A mapping with the mappings that it takes in. -/
def layerOf? : List (Node × Node) → Option Layer
  | [] => some (.mk [] [])
  | (key, v) :: rest => do
    let .mk own others ← layerOf? rest
    if !key.isInclusion then some (.mk (⟨key, v, v.datum?⟩ :: own) others)
    else match v with
      | .mapping entries =>
        if distinctKeys entries then (layerOf? entries).map fun layer => .mk own [layer] else none
      | .sequence items => (layersOf? items).map (.mk own)
      | .scalar _ _ => none

/-- The mappings that the items of a sequence are. -/
def layersOf? : List Node → Option (List Layer)
  | [] => some []
  | .mapping entries :: rest =>
    if distinctKeys entries then do
      let layer ← layerOf? entries
      let layers ← layersOf? rest
      some (layer :: layers)
    else none
  | _ :: _ => none

end

/-- A mapping with the mappings that it takes in. -/
def Node.layer? : Node → Option Layer
  | .mapping entries => if distinctKeys entries then layerOf? entries else none
  | _ => none

end Lisplet.Config
