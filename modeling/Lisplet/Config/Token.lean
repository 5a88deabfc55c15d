import Lisplet.Config.Scalar

/-!
# Tokens of a configuration

A configuration is read as a sequence of tokens. Indentation becomes tokens as well: a token begins
a collection that is laid out in lines, and another one ends it. That a scalar or a collection was a
key is known only at the colon behind it, so tokens wait in a queue, and the token for a key is put
in front of what has become one.
-/

namespace Lisplet.Config

/-- A token of a configuration. -/
inductive Token where
  /-- The end of the configuration. -/
  | finish
  /-- The border in front of a document. -/
  | documentStart
  /-- The border behind a document. -/
  | documentEnd
  /-- The beginning of a sequence that is laid out in lines. -/
  | sequenceStart
  /-- The beginning of a mapping that is laid out in lines. -/
  | mappingStart
  /-- The end of a collection that is laid out in lines. -/
  | layoutEnd
  /-- The dash in front of an item. -/
  | dash
  /-- What comes next is a key. -/
  | key
  /-- What comes next belongs to a key. -/
  | colon
  /-- The bracket in front of a sequence. -/
  | sequenceOpen
  /-- The bracket behind a sequence. -/
  | sequenceClose
  /-- The bracket in front of a mapping. -/
  | mappingOpen
  /-- The bracket behind a mapping. -/
  | mappingClose
  /-- The comma between parts of a collection in brackets. -/
  | comma
  /-- A scalar, and whether it is written plainly. -/
  | scalar (plain : Bool) (contents : List Char)
  deriving DecidableEq

/-- What may turn out to be a key. -/
structure Candidate where
  /-- Whether it still can be one. -/
  possible : Bool
  /-- Whether it has to be one, since it stands where only a key can stand. -/
  required : Bool
  /-- The number of its first token. -/
  token : Nat
  /-- Its place. -/
  place : Place

namespace Candidate

/-- How far behind its beginning the colon of a key can stand. -/
def reach : Nat := 1024

/-- Whether a candidate is a key if a colon stands at the given place. A key stands on one line. A
candidate that has to be a key and cannot is an error. -/
def fits? (k : Candidate) (here : Place) : Option Bool :=
  if !k.possible then some false
  else if k.place.line < here.line || k.place.index + reach < here.index then
    if k.required then none else some false
  else some true

end Candidate

/-- The greatest number of collections inside each other. -/
def deepest : Nat := 10000

/-- The tokens of a configuration, of which those in the queue are read. -/
structure Tokens where
  /-- What follows the tokens in the queue. -/
  source : Source
  /-- The tokens that are read and not taken. -/
  queue : List Token
  /-- How many tokens were taken. -/
  taken : Nat
  /-- What may turn out to be a key in the innermost brackets. -/
  candidate : Candidate
  /-- The same for all brackets around them, innermost first, and for the lines around those. -/
  outer : List Candidate
  /-- The numbers of tokens that begin a candidate, with the depth of its brackets. -/
  watched : List (Nat × Nat)
  /-- The column behind that of the innermost collection that is laid out in lines; zero if there is
  none. -/
  floor : Nat
  /-- The same for all collections around it, innermost first. -/
  floors : List Nat
  /-- Whether a key can stand here. -/
  keyAllowed : Bool

namespace Tokens

/-- The tokens of a text, of which none is read. -/
def ofText (t : Text) : Tokens :=
  ⟨.ofText t, [], 0, ⟨false, false, 0, ⟨0, 0, 0⟩⟩, [], [], 0, [], true⟩

/-- Whether the next token stands in brackets. -/
def bracketed (t : Tokens) : Bool := !t.outer.isEmpty

/-- The column of the next token. -/
def column (t : Tokens) : Nat := t.source.column

/-- The number of the next token. -/
def number (t : Tokens) : Nat := t.taken + t.queue.length

/-- Puts a token at the end of the queue. -/
def append (t : Tokens) (k : Token) : Tokens := { t with queue := t.queue ++ [k] }

/-- Puts a token in front of the one with the given number, or at the end of the queue if that one
was taken. -/
def insert (t : Tokens) (number : Nat) (k : Token) : Tokens :=
  if number < t.taken then t.append k
  else
    let (before, behind) := t.queue.splitAt (number - t.taken)
    { t with queue := before ++ k :: behind }

/-- Puts a token that takes a number of characters at the end of the queue. -/
def consume (t : Tokens) (width : Nat) (k : Token) : Tokens :=
  { t.append k with source := t.source.advance width }

/-- The watched tokens without one of them. -/
def unwatch (t : Tokens) (number : Nat) : List (Nat × Nat) :=
  t.watched.filter fun entry => entry.1 != number

/-- Gives up the candidate of the innermost brackets, which must not have to be a key. -/
def dropCandidate (t : Tokens) : Option Tokens :=
  if !t.candidate.possible then some t
  else if t.candidate.required then none
  else some { t with
    candidate := { t.candidate with possible := false }
    watched := t.unwatch t.candidate.token }

/-- Makes the next token the candidate of the innermost brackets, if a key can stand here. What
stands where an item of the innermost collection in lines begins has to be a key. -/
def saveCandidate (t : Tokens) : Option Tokens := do
  if !t.keyAllowed then some t
  else
    let required := !t.bracketed && t.floor == t.column + 1
    let t ← t.dropCandidate
    some { t with
      candidate := ⟨true, required, t.number, t.source.place⟩
      watched := (t.number, t.outer.length) :: t.unwatch t.number }

/-- Begins a collection that is laid out in lines if the given column lies further right than all
around it. `place` is what puts its token into the queue. -/
def beginLayout (t : Tokens) (column : Nat) (place : Tokens → Tokens) : Option Tokens :=
  if t.bracketed || column < t.floor then some t
  else if deepest ≤ t.floors.length then none
  else some (place { t with floor := column + 1, floors := t.floor :: t.floors })

/-- The layout behind the ends of all collections further right than `limit`, with their number. -/
def outerFloor (limit : Nat) : (floor : Nat) → (floors : List Nat) → Nat × List Nat × Nat
  | floor, [] => (floor, [], 0)
  | floor, f :: floors =>
    if floor ≤ limit then (floor, f :: floors, 0)
    else
      let (floor, floors, ends) := outerFloor limit f floors
      (floor, floors, ends + 1)

/-- Ends all collections in lines that lie further right than `limit`. -/
def endLayouts (t : Tokens) (limit : Nat) : Tokens :=
  if t.bracketed then t
  else
    let (floor, floors, ends) := outerFloor limit t.floor t.floors
    { t with floor, floors, queue := t.queue ++ List.replicate ends .layoutEnd }

/-- Skips white space, comments and line ends. A tab counts as white space unless it could stand in
an indentation. A key can stand on a new line. `fuel` bounds the number of lines. -/
def skipGap : (fuel : Nat) → Tokens → Option Tokens
  | 0, _ => none
  | fuel + 1, t => do
    let s ← t.source.need 1
    let s ← if s.column == 0 && s.marked then (s.advance 1).need 1 else some s
    let isGap := fun c => c == ' ' || (c == '\t' && (t.bracketed || !t.keyAllowed))
    let s ← (s.advance (s.rest.takeWhile isGap).length).need 1
    let s ← if s.peek? == some '#' then s.skipComments (s.bound + 1) else some s
    if s.atLineEnd then
      let s ← s.need 2
      skipGap fuel { t with source := s.nextLine, keyAllowed := t.keyAllowed || !t.bracketed }
    else some { t with source := s }

/-- Reads the end of the configuration. -/
def readFinish (t : Tokens) : Option Tokens := do
  let place := t.source.place
  let place := if place.column == 0 then place else { place with line := place.line + 1, column := 0 }
  let t ← ({ t with source := { t.source with place } }.endLayouts 0).dropCandidate
  some ({ t with keyAllowed := false }.append .finish)

/-- Reads a border of a document. -/
def readBorder (t : Tokens) (k : Token) : Option Tokens := do
  let t ← (t.endLayouts 0).dropCandidate
  some ({ t with keyAllowed := false }.consume 3 k)

/-- Reads a bracket in front of a collection, which may be a key as a whole. -/
def readOpen (t : Tokens) (k : Token) : Option Tokens := do
  let t ← t.saveCandidate
  if deepest ≤ t.outer.length then none
  else
    let inner : Candidate := ⟨false, false, t.number, t.source.place⟩
    some ({ t with
      candidate := inner
      outer := t.candidate :: t.outer
      keyAllowed := true }.consume 1 k)

/-- Reads a bracket behind a collection. -/
def readClose (t : Tokens) (k : Token) : Option Tokens := do
  let t ← t.dropCandidate
  let t := match t.outer with
    | [] => t
    | candidate :: outer => { t with candidate, outer, watched := t.unwatch t.candidate.token }
  some ({ t with keyAllowed := false }.consume 1 k)

/-- Reads a comma. -/
def readComma (t : Tokens) : Option Tokens := do
  let t ← t.dropCandidate
  some ({ t with keyAllowed := true }.consume 1 .comma)

/-- Begins a collection in lines at the next token, where a key must be able to stand. -/
def beginLayoutHere (t : Tokens) (k : Token) : Option Tokens :=
  if t.bracketed then some t
  else if !t.keyAllowed then none
  else t.beginLayout t.column fun t => t.append k

/-- Reads the dash in front of an item. -/
def readDash (t : Tokens) : Option Tokens := do
  let t ← t.beginLayoutHere .sequenceStart
  let t ← t.dropCandidate
  some ({ t with keyAllowed := true }.consume 1 .dash)

/-- Reads a mark in front of a key. -/
def readKey (t : Tokens) : Option Tokens := do
  let t ← t.beginLayoutHere .mappingStart
  let t ← t.dropCandidate
  some ({ t with keyAllowed := !t.bracketed }.consume 1 .key)

/-- Reads the colon behind a key. The candidate, if it fits, becomes the key, and its beginning that
of a mapping. -/
def readColon (t : Tokens) : Option Tokens := do
  let k := t.candidate
  if ← k.fits? t.source.place then
    let t := t.insert k.token .key
    let t ← t.beginLayout k.place.column fun t => t.insert k.token .mappingStart
    some ({ t with
      candidate := { k with possible := false }
      watched := t.unwatch k.token
      keyAllowed := false }.consume 1 .colon)
  else
    let t ← { t with candidate := { k with possible := false } }.beginLayoutHere .mappingStart
    some ({ t with keyAllowed := !t.bracketed }.consume 1 .colon)

/-- Reads a block scalar, which is no key. -/
def readBlock (t : Tokens) : Option Tokens := do
  let t ← t.dropCandidate
  let s ← blockScalar t.floor t.source
  some ({ t with source := s.source, keyAllowed := true }.append (.scalar false s.contents))

/-- Reads a scalar in quotes. -/
def readQuoted (t : Tokens) : Option Tokens := do
  let t ← t.saveCandidate
  let s ← quotedScalar t.source
  let source ← s.source.skipLineComment
  some ({ t with source, keyAllowed := false }.append (.scalar false s.contents))

/-- Reads a plain scalar. If it ends with its line, a key can follow. -/
def readPlain (t : Tokens) : Option Tokens := do
  if beginsPlain t.bracketed t.source.rest then
    let t ← t.saveCandidate
    let s ← plainScalar t.bracketed t.floor t.source
    let source ← if s.endsLine then some s.source else s.source.skipLineComment
    some ({ t with source, keyAllowed := s.endsLine }.append (.scalar true s.contents))
  else none

/-- Skips a comment behind a token. -/
def skipLineComment (t : Tokens) : Option Tokens :=
  t.source.skipLineComment.map fun source => { t with source }

/-- Reads the token that begins with the given character. -/
def readAt (t : Tokens) (c : Char) (rest : List Char) : Option Tokens :=
  if c == '[' then do (← t.readOpen .sequenceOpen).skipLineComment
  else if c == '\x7b' then do (← t.readOpen .mappingOpen).skipLineComment
  else if c == ']' then do (← t.readClose .sequenceClose).skipLineComment
  else if c == '\x7d' then do (← t.readClose .mappingClose).skipLineComment
  else if c == ',' then do (← t.readComma).skipLineComment
  else if c == '-' && endsToken rest then t.readDash
  else if c == '?' && (t.bracketed || endsToken rest) then do (← t.readKey).skipLineComment
  else if c == ':' && (t.bracketed || endsToken rest) then do (← t.readColon).skipLineComment
  else if (c == '|' || c == '>') && !t.bracketed then t.readBlock
  else if c == '\'' || c == '"' then t.readQuoted
  else t.readPlain

/-- Reads a further token. -/
def read (t : Tokens) : Option Tokens := do
  let t ← t.skipGap (t.source.bound + 1)
  let t := t.endLayouts (t.column + 1)
  let source ← t.source.need 4
  let t := { t with source }
  match source.rest with
  | [] => t.readFinish
  | c :: rest =>
    if t.column == 0 && isBorder '-' (c :: rest) then t.readBorder .documentStart
    else if t.column == 0 && isBorder '.' (c :: rest) then t.readBorder .documentEnd
    else t.readAt c rest

/-- The candidate in brackets of a given depth. -/
def candidateAt? (t : Tokens) (depth : Nat) : Option Candidate :=
  let inside := t.outer.length - depth
  if inside == 0 then some t.candidate else t.outer[inside - 1]?

/-- Whether the first token in the queue may turn out to be a key. -/
def undecided (t : Tokens) : Option Bool :=
  match (t.watched.lookup t.taken).bind t.candidateAt? with
  | none => some false
  | some k => k.fits? t.source.place

/-- Reads tokens until three are in the queue and nothing more can come in front of the first. `fuel`
bounds the number of tokens. -/
def fill : (fuel : Nat) → Tokens → Option Tokens
  | 0, _ => none
  | fuel + 1, t => do
    if (t.queue.drop 2).isEmpty || (← t.undecided) then fill fuel (← t.read) else some t

/-- The next token. -/
def peek? (t : Tokens) : Option (Token × Tokens) := do
  let t ← t.fill (t.source.bound + 4)
  match t.queue with
  | [] => none
  | k :: _ => some (k, t)

/-- The tokens behind the first. -/
def drop (t : Tokens) : Tokens :=
  { t with
    queue := t.queue.drop 1
    taken := t.taken + 1
    watched := t.watched.filter fun entry => t.taken < entry.1 }

/-- The next token, and the tokens behind it. -/
def next? (t : Tokens) : Option (Token × Tokens) := t.peek?.map fun (k, t) => (k, t.drop)

end Tokens

end Lisplet.Config
