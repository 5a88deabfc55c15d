import Lisplet.Decimal.Parse
import Lisplet.Reader.Error
import Lisplet.Text.Quoted
import Lisplet.Value.Basic

/-!
# Reading forms

A form is a number, a truth value, a string, a list in round brackets, a block in braces, a call or
a symbol. Each of these has a reader of its own. They are tried in this order: one that does not
apply lets the next one try, and any other failure is final. A reader takes an input and gives back
what it read with the input behind it, so a failure leaves the input as it was.
-/

namespace Lisplet.Reader

/-- What a reader gives back: a result and the input behind it, or an error. -/
abbrev Reading (α : Type) := Except ReadError (α × Input)

/-- The characters that end a token and begin none, round brackets and braces apart. -/
def delimiters : List Char := ['(', ')', '[', ']', '\x7b', '\x7d', '<', '>', '\'']

/-- Whether a rune is a delimiter. -/
def isDelimiter (r : Rune) : Bool := delimiters.any fun c => r.isChar c

/-- Whether a token may end in front of a rune. -/
def isBoundary (r : Rune) : Bool := r.isBlank || isDelimiter r

/-- Whether a rune is an ASCII digit. -/
def isDigit (r : Rune) : Bool := 48 ≤ r.code && r.code ≤ 57

/-- Whether a rune can stand in a number behind its sign. -/
def isNumeralRune (r : Rune) : Bool := isDigit r || r.isChar '.'

/-- The runes of the number that the given runes begin with: an optional sign, an optional point, a
digit, and all digits and points that follow. -/
def numeral? (rs : List Rune) : Option (List Rune) :=
  let sign := rs.takeWhile (fun r => r.isChar '-') |>.take 1
  let body := (rs.drop sign.length).takeWhile isNumeralRune
  let digits := if body.head?.any (fun r => r.isChar '.') then body.drop 1 else body
  if digits.head?.any isDigit then some (sign ++ body) else none

/-- The note on a number beyond the range of the format. -/
def outOfRangeNote (t : Text) : Text :=
  text "strconv.ParseFloat: parsing " ++ t.quoted ++ text ": value out of range"

/-- Reads a number. A number with two points, or one that is too large, is an error. -/
def number (i : Input) : Reading Value :=
  match numeral? i.rest with
  | none => .error (.located .notANumber i.place [])
  | some rs =>
    if 1 < rs.countP (fun r => r.isChar '.') then
      .error (.located .invalidNumber i.place (text "too many dots"))
    else
      let t := Text.ofRunes rs
      let n := (Decimal.parse? t).getD 0.0
      if n.isInf then .error (.located .invalidNumber i.place (outOfRangeNote t))
      else .ok (.num n, ⟨i.place.afterAll rs, i.rest.drop rs.length⟩)

/-- The truth value that a letter stands for behind a hash sign. -/
def truth? (r : Rune) : Option Bool :=
  if r.isChar 't' || r.isChar 'T' then some true
  else if r.isChar 'f' || r.isChar 'F' then some false
  else none

/-- Reads a truth value. It has to end at a boundary. -/
def boolean (i : Input) : Reading Value :=
  match i.rest with
  | hash :: letter :: rest =>
    match if hash.isChar '#' then truth? letter else none with
    | some b =>
      if rest.head?.all isBoundary then
        .ok (.bool b, ⟨(i.place.after hash).after letter, rest⟩)
      else .error (.located .notABoolean i.place [])
    | none => .error (.located .notABoolean i.place [])
  | _ => .error (.located .notABoolean i.place [])

/-- Reads a string: the text between two double quotes, as it stands. -/
def string (i : Input) : Reading Value :=
  if i.looksAt '"' then
    let (contents, behind) := i.advance.span fun r => !r.isChar '"'
    if behind.atEnd then .error (.ranOut .unterminatedString i.place)
    else .ok (.str (Text.ofRunes contents), behind.advance)
  else .error (.located .notAString i.place [])

/-- Reads a symbol: all runes up to a boundary, at least one. -/
def symbol (i : Input) : Reading Value :=
  let (name, behind) := i.span fun r => !isBoundary r
  if name.isEmpty then
    .error (.located .invalidSymbol i.place
      (text "unexpected " ++ (i.peek?.getD (.char '\x00')).quoted))
  else .ok (.symbol (Text.ofRunes name), behind)

/-- A pair of brackets and the error for one without its counterpart. -/
structure Bracket where
  /-- The bracket that opens. -/
  opening : Char
  /-- The bracket that closes. -/
  closing : Char
  /-- The kind of error for a missing or wrong counterpart. -/
  unbalanced : ReadErrorKind

/-- Round brackets enclose lists. -/
def Bracket.round : Bracket := ⟨'(', ')', .unbalancedParenthesis⟩

/-- Braces enclose blocks. -/
def Bracket.brace : Bracket := ⟨'\x7b', '\x7d', .unbalancedBraces⟩

/-- Whether a rune closes any kind of bracket. -/
def isCloser (r : Rune) : Bool := r.isChar ')' || r.isChar ']' || r.isChar '\x7d'

/-- The error for a closing bracket that does not match. -/
def wrongCloser (b : Bracket) (opened : Position) (r : Rune) (place : Position) : ReadError :=
  .located b.unbalanced opened
    (text "unexpected " ++ r.quoted ++ text " at line " ++ Text.ofNat place.line ++ text ", col "
      ++ Text.ofNat place.column)

/-- Reads the items behind an opening bracket, up to its counterpart. `fuel` bounds the number of
items; the length of the input is enough, as each item takes at least one rune. -/
def itemsFrom (item : Input → Reading Value) (b : Bracket) (opened : Position) :
    (fuel : Nat) → Input → Reading (List Value)
  | 0, _ => .error (.ranOut b.unbalanced opened)
  | fuel + 1, i =>
    let i := i.skipBlanks
    match i.rest with
    | [] => .error (.ranOut b.unbalanced opened)
    | r :: _ =>
      if r.isChar b.closing then .ok ([], i.advance)
      else if isCloser r then .error (wrongCloser b opened r i.place)
      else match item i with
        | .error e => .error e
        | .ok (v, behind) =>
          match itemsFrom item b opened fuel behind with
          | .error e => .error e
          | .ok (vs, behind) => .ok (v :: vs, behind)

/-- Reads a bracketed sequence of items. -/
def sequence (item : Input → Reading Value) (b : Bracket) (i : Input) : Reading (List Value) :=
  if i.looksAt b.opening then itemsFrom item b i.place i.rest.length i.advance
  else .error (.located .notAList i.place [])

/-- Reads a list. -/
def list (item : Input → Reading Value) (i : Input) : Reading Value :=
  match sequence item .round i with
  | .error e => .error e
  | .ok (vs, behind) => .ok (.list vs, behind)

/-- Reads a block, which is a list with the symbol `do` in front. -/
def block (item : Input → Reading Value) (i : Input) : Reading Value :=
  match sequence item .brace i with
  | .error e => .error e
  | .ok (vs, behind) => .ok (.list (.symbol (text "do") :: vs), behind)

/-- Reads a call: a symbol with a list right behind it, which is the list with the symbol in
front. -/
def call (item : Input → Reading Value) (i : Input) : Reading Value :=
  match symbol i with
  | .error _ => .error (.located .notAFunctionCall i.place [])
  | .ok (name, behind) =>
    if behind.looksAt '(' then
      match sequence item .round behind with
      | .error e => .error e
      | .ok (vs, behind) => .ok (.list (name :: vs), behind)
    else .error (.located .notAFunctionCall i.place [])

/-- The readers of forms, in the order in which they are tried. -/
def productions (item : Input → Reading Value) : List (Input → Reading Value) :=
  [number, boolean, string, list item, block item, call item, symbol]

/-- The result of the first reader that applies. -/
def firstOf (i : Input) : List (Input → Reading Value) → Reading Value
  | [] => .error (.located .generic i.place
      (text "unexpected " ++ (i.peek?.getD (.char '\x00')).quoted))
  | production :: rest =>
    match production i with
    | .ok result => .ok result
    | .error e => if e.kind.fallsThrough then firstOf i rest else .error e

/-- Reads a form whose brackets are nested less than `depth` deep. -/
def formWithin : (depth : Nat) → Input → Reading Value
  | 0, i => firstOf i []
  | depth + 1, i => firstOf i (productions (formWithin depth))

/-- Reads a form. An input cannot hold more brackets than runes, so its length bounds the
nesting. -/
def form (i : Input) : Reading Value := formWithin (i.rest.length + 1) i

end Lisplet.Reader
