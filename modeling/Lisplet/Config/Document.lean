import Lisplet.Config.Token

/-!
# Documents

A configuration is a document in a common format for data: mappings, sequences and scalars, laid
out by indentation or written in brackets. This reader takes the plain part of the format, without
anchors, tags and directives.
-/

namespace Lisplet.Config

/-- A part of a document. -/
inductive Node where
  /-- A scalar; a plain one stands for the datum that its contents spell. -/
  | scalar (plain : Bool) (contents : Text)
  /-- A sequence. -/
  | sequence (items : List Node)
  /-- A mapping, its entries in the order in which they are written. -/
  | mapping (entries : List (Node × Node))
  deriving Inhabited

/-- The node that stands where nothing is written. -/
def Node.empty : Node := .scalar true []

/-- What stands in front of a node laid out in lines. -/
inductive Position where
  /-- The beginning of a document or a dash. -/
  | alone
  /-- A key or a colon, behind which the items of a sequence may begin in the column of the key. -/
  | entry
  /-- The node stands in brackets. -/
  | bracketed
  deriving DecidableEq

mutual

/-- Reads a node. -/
def readNode (position : Position) : (fuel : Nat) → Tokens → Option (Node × Tokens)
  | 0, _ => none
  | fuel + 1, t => do
    let (k, t) ← t.peek?
    match k with
    | .scalar plain contents => some (.scalar plain (.ofChars contents), t.drop)
    | .sequenceOpen => do
      let (items, t) ← readItems true fuel t.drop
      some (.sequence items, t)
    | .mappingOpen => do
      let (entries, t) ← readEntries true fuel t.drop
      some (.mapping entries, t)
    | .sequenceStart =>
      if position == .bracketed then none
      else do
        let (items, t) ← readLines fuel t.drop
        some (.sequence items, t)
    | .mappingStart =>
      if position == .bracketed then none
      else do
        let (entries, t) ← readFields fuel t.drop
        some (.mapping entries, t)
    | .dash =>
      if position == .entry then do
        let (items, t) ← readDashes fuel t
        some (.sequence items, t)
      else none
    | _ => none

/-- Reads a node, unless one of the given tokens comes next. -/
def readUnless (stops : List Token) (position : Position) :
    (fuel : Nat) → Tokens → Option (Node × Tokens)
  | 0, _ => none
  | fuel + 1, t => do
    let (k, t) ← t.peek?
    if stops.contains k then some (.empty, t) else readNode position fuel t

/-- Reads the items of a sequence that is laid out in lines. -/
def readLines : (fuel : Nat) → Tokens → Option (List Node × Tokens)
  | 0, _ => none
  | fuel + 1, t => do
    let (k, t) ← t.next?
    match k with
    | .dash => do
      let (item, t) ← readUnless [.dash, .layoutEnd] .alone fuel t
      let (items, t) ← readLines fuel t
      some (item :: items, t)
    | .layoutEnd => some ([], t)
    | _ => none

/-- Reads the items of a sequence in the column of the key that it belongs to. -/
def readDashes : (fuel : Nat) → Tokens → Option (List Node × Tokens)
  | 0, _ => none
  | fuel + 1, t => do
    let (k, t) ← t.peek?
    match k with
    | .dash => do
      let (item, t) ← readUnless [.dash, .key, .colon, .layoutEnd] .alone fuel t.drop
      let (items, t) ← readDashes fuel t
      some (item :: items, t)
    | _ => some ([], t)

/-- Reads the entries of a mapping that is laid out in lines. -/
def readFields : (fuel : Nat) → Tokens → Option (List (Node × Node) × Tokens)
  | 0, _ => none
  | fuel + 1, t => do
    let (k, t) ← t.next?
    match k with
    | .key => do
      let (key, t) ← readUnless [.key, .colon, .layoutEnd] .entry fuel t
      let (k, t) ← t.peek?
      let (v, t) ← if k == .colon then readUnless [.key, .colon, .layoutEnd] .entry fuel t.drop
        else some (.empty, t)
      let (entries, t) ← readFields fuel t
      some ((key, v) :: entries, t)
    | .layoutEnd => some ([], t)
    | _ => none

/-- Reads the items of a sequence in brackets. Commas divide them, and one may stand behind the
last. An item with a key is a mapping with this entry alone. -/
def readItems (first : Bool) : (fuel : Nat) → Tokens → Option (List Node × Tokens)
  | 0, _ => none
  | fuel + 1, t => do
    let (k, t) ← t.peek?
    let ended := k == .sequenceClose
    let t ← if first || ended then some t else if k == .comma then some t.drop else none
    let (k, t) ← t.peek?
    if ended || k == .sequenceClose then some ([], t.drop)
    else
      let (item, t) ← if k == .key then readPair fuel t.drop else readNode .bracketed fuel t
      let (items, t) ← readItems false fuel t
      some (item :: items, t)

/-- Reads an item with a key behind the beginning of the key. If there is no key, the token that
shows this is dropped. -/
def readPair : (fuel : Nat) → Tokens → Option (Node × Tokens)
  | 0, _ => none
  | fuel + 1, t => do
    let (k, t) ← t.peek?
    let (key, t) ← if [.colon, .comma, .sequenceClose].contains k then some (.empty, t.drop)
      else readNode .bracketed fuel t
    let (k, t) ← t.peek?
    let (v, t) ← if k == .colon then readUnless [.comma, .sequenceClose] .bracketed fuel t.drop
      else some (.empty, t)
    some (.mapping [(key, v)], t)

/-- Reads the entries of a mapping in brackets. Commas divide them, and one may stand behind the
last. What has no colon is a key without a value. -/
def readEntries (first : Bool) : (fuel : Nat) → Tokens → Option (List (Node × Node) × Tokens)
  | 0, _ => none
  | fuel + 1, t => do
    let (k, t) ← t.peek?
    let ended := k == .mappingClose
    let t ← if first || ended then some t else if k == .comma then some t.drop else none
    let (k, t) ← t.peek?
    if ended || k == .mappingClose then some ([], t.drop)
    else
      let (entry, t) ← if k == .key then readField fuel t.drop
        else (readNode .bracketed fuel t).map fun (key, t) => ((key, .empty), t)
      let (entries, t) ← readEntries false fuel t
      some (entry :: entries, t)

/-- Reads an entry of a mapping in brackets behind the beginning of its key. -/
def readField : (fuel : Nat) → Tokens → Option ((Node × Node) × Tokens)
  | 0, _ => none
  | fuel + 1, t => do
    let (key, t) ← readUnless [.colon, .comma, .mappingClose] .bracketed fuel t
    let (k, t) ← t.peek?
    let (v, t) ← if k == .colon then readUnless [.comma, .mappingClose] .bracketed fuel t.drop
      else some (.empty, t)
    some ((key, v), t)

end

/-- Reads the first document of a text. What follows it counts only as far as it is read ahead. -/
def readDocument (t : Text) : Option Node := do
  let fuel := 16 * (t.length + 4)
  let (k, t) ← (Tokens.ofText t).peek?
  let (node, t) ← match k with
    | .finish => some (.empty, t)
    | .documentStart => readUnless [.documentStart, .documentEnd, .finish] .alone fuel t.drop
    | _ => readNode .alone fuel t
  let _ ← t.peek?
  some node

end Lisplet.Config
