import Lisplet.Text.Rune

/-!
# The characters of a configuration

A configuration is written in UTF-8, or in UTF-16 if a byte order mark at its beginning says so. It
is loaded piece by piece. A piece with a fault in it is noticed only when one of its characters is
asked for, so that what lies behind the end of a document need not be well-formed.
-/

namespace Lisplet.Config

/-- How characters are written in bytes. -/
inductive Encoding where
  /-- UTF-8. -/
  | utf8
  /-- UTF-16, with the low byte of each unit first or last. -/
  | utf16 (lowFirst : Bool)

/-- What the next bytes of a piece hold. -/
inductive Decoded where
  /-- A character in a number of bytes. -/
  | char (c : Char) (width : Nat)
  /-- The beginning of a character that goes on behind the piece. -/
  | unfinished
  /-- Something that is no character, or one that may not stand in a configuration. -/
  | fault

/-- Whether a character may stand in a configuration. -/
def isAllowed (c : Char) : Bool :=
  let n := c.toNat
  n == 9 || n == 10 || n == 13 || (0x20 ≤ n && n ≤ 0x7E) || n == 0x85 || (0xA0 ≤ n && n ≤ 0xFFFD)
    || 0x10000 ≤ n

/-- A character that was decoded, if it may stand in a configuration. -/
def Decoded.allowed (c : Char) (width : Nat) : Decoded :=
  if isAllowed c then .char c width else .fault

/-- The number of bytes that the first byte of a character in UTF-8 announces. -/
def utf8Width (a : UInt8) : Nat :=
  if a < 0x80 then 1
  else if a < 0xC0 then 0
  else if a < 0xE0 then 2
  else if a < 0xF0 then 3
  else if a < 0xF8 then 4
  else 0

/-- Decodes a character in UTF-8 from a piece with a number of bytes left. -/
def decodeUtf8 (left : Nat) : Text → Decoded
  | [] => .unfinished
  | a :: rest =>
    let width := utf8Width a
    if width == 0 then .fault
    else if left < width then .unfinished
    else match Rune.leading a rest with
      | .char c => .allowed c width
      | .stray _ => .fault

/-- The unit of UTF-16 that two bytes give. -/
def unit16 (lowFirst : Bool) (a b : UInt8) : Nat :=
  if lowFirst then a.toNat + 0x100 * b.toNat else 0x100 * a.toNat + b.toNat

/-- Decodes a character in UTF-16 from a piece with a number of bytes left. A character beyond the
sixteen bits of a unit takes a high unit and then a low one. -/
def decodeUtf16 (lowFirst : Bool) (left : Nat) : Text → Decoded
  | a :: b :: rest =>
    let high := unit16 lowFirst a b
    if left < 2 then .unfinished
    else if 0xDC00 ≤ high && high ≤ 0xDFFF then .fault
    else if high < 0xD800 || 0xDBFF < high then .allowed (Char.ofNat high) 2
    else if left < 4 then .unfinished
    else match rest with
      | c :: d :: _ =>
        let low := unit16 lowFirst c d
        if 0xDC00 ≤ low && low ≤ 0xDFFF then
          .allowed (Char.ofNat (0x10000 + (high - 0xD800) * 0x400 + (low - 0xDC00))) 4
        else .fault
      | _ => .unfinished
  | _ => .unfinished

/-- Decodes the next character of a piece. -/
def Encoding.decode : Encoding → (left : Nat) → Text → Decoded
  | .utf8 => decodeUtf8
  | .utf16 lowFirst => decodeUtf16 lowFirst

/-- The byte order mark at the beginning of a text: the encoding that it announces and its width. -/
def encodingOf : Text → Encoding × Nat
  | 0xFF :: 0xFE :: _ => (.utf16 true, 2)
  | 0xFE :: 0xFF :: _ => (.utf16 false, 2)
  | 0xEF :: 0xBB :: 0xBF :: _ => (.utf8, 3)
  | _ => (.utf8, 0)

/-- The number of bytes in a piece. -/
def pieceSize : Nat := 512

/-- The characters of a piece with a number of bytes left, and the bytes behind them. A fault spoils
the whole piece. `fuel` bounds the number of characters. -/
def decodePiece (e : Encoding) : (fuel : Nat) → (left : Nat) → Text → Option (List Char × Text)
  | 0, _, t => some ([], t)
  | fuel + 1, left, t =>
    if left == 0 then some ([], t)
    else match e.decode left t with
      | .fault => none
      | .unfinished => some ([], t)
      | .char c width =>
        (decodePiece e fuel (left - width) (t.drop width)).map fun (cs, rest) => (c :: cs, rest)

/-- The characters of all pieces in front of the first spoilt one, and whether there is a spoilt
one. A piece begins with the bytes that the piece before it left over. `fuel` bounds the number of
pieces. -/
def decodePieces (e : Encoding) : (fuel : Nat) → (left : Nat) → Text → List (List Char) × Bool
  | 0, _, _ => ([], false)
  | fuel + 1, left, t =>
    if t.isEmpty then ([], false)
    else match decodePiece e pieceSize left t with
      | none => ([], true)
      | some ([], _) => ([], true)
      | some (cs, rest) =>
        let (more, spoilt) := decodePieces e fuel (min pieceSize rest.length) rest
        (cs :: more, spoilt)

/-- A place in a configuration. -/
structure Place where
  /-- The number of characters in front of it. -/
  index : Nat
  /-- The number of lines in front of its line. -/
  line : Nat
  /-- The number of characters in front of it on its line. -/
  column : Nat

/-- What is left of a configuration. -/
structure Source where
  /-- The characters that are left, up to the first spoilt piece. -/
  rest : List Char
  /-- A bound on their number. -/
  bound : Nat
  /-- The place of the first of them. -/
  place : Place
  /-- The index behind those that are loaded. -/
  reached : Nat
  /-- The indices behind the pieces that are not loaded. -/
  ends : List Nat
  /-- Whether a spoilt piece follows. -/
  spoilt : Bool
  /-- Whether a byte order mark came first when a piece was loaded last. -/
  marked : Bool

/-- Whether a character is white space inside a line. -/
def isBlank (c : Char) : Bool := c == ' ' || c == '\t'

/-- Whether a character ends a line. -/
def isLineEnd (c : Char) : Bool :=
  c == '\n' || c == '\r' || c.toNat == 0x85 || c.toNat == 0x2028 || c.toNat == 0x2029

/-- Whether a token can end here: at the end, a line end or white space. -/
def endsToken : List Char → Bool
  | [] => true
  | c :: _ => isBlank c || isLineEnd c

/-- The width of the line end that comes next; zero if none does. -/
def lineEndWidth : List Char → Nat
  | '\r' :: '\n' :: _ => 2
  | c :: _ => if isLineEnd c then 1 else 0
  | [] => 0

/-- What a line end contributes to a scalar. The separators of lines and paragraphs stay as they are,
and all others count alike. -/
def lineEndContents : List Char → List Char
  | [] => []
  | c :: _ =>
    if c.toNat == 0x2028 || c.toNat == 0x2029 then [c] else if isLineEnd c then ['\n'] else []

namespace Source

/-- The mark that stands for the byte order. -/
def byteOrderMark : Char := Char.ofNat 0xFEFF

/-- The indices behind the pieces that begin at an index. -/
def endsFrom (start : Nat) : List (List Char) → List Nat
  | [] => []
  | piece :: pieces => (start + piece.length) :: endsFrom (start + piece.length) pieces

/-- The whole of a text. -/
def ofText (t : Text) : Source :=
  let (e, width) := encodingOf t
  let (pieces, spoilt) :=
    decodePieces e (t.length + 1) (min pieceSize t.length - width) (t.drop width)
  ⟨pieces.flatten, t.length, ⟨0, 0, 0⟩, 0, endsFrom 0 pieces, spoilt, false⟩

/-- Loads pieces up to an index, or all of them. The end counts as a character. -/
def load (target : Nat) : (ends : List Nat) → Source → Option Source
  | [], s => if s.spoilt then none else some { s with reached := s.reached + 1, ends := [] }
  | e :: ends, s =>
    let s := { s with reached := e, ends }
    if target ≤ e then some s else load target ends s

/-- The source with the note whether a byte order mark comes first. -/
def note (s : Source) : Source := { s with marked := s.rest.head? == some byteOrderMark }

/-- Makes sure that a number of characters are there, unless the end is nearer. -/
def need (s : Source) (count : Nat) : Option Source :=
  if s.place.index + count ≤ s.reached then some s
  else load (s.place.index + count) s.ends s.note

/-- The next character. -/
def peek? (s : Source) : Option Char := s.rest.head?

/-- Whether a line end comes next. -/
def atLineEnd (s : Source) : Bool := s.rest.head?.any isLineEnd

/-- The column of the next character. -/
def column (s : Source) : Nat := s.place.column

/-- The source behind a number of characters of one line that are loaded. -/
def forward (s : Source) (n : Nat) : Source :=
  { s with
    rest := s.rest.drop n
    place := { s.place with index := s.place.index + n, column := s.place.column + n } }

/-- The source at an index on the same line. Pieces are loaded on the way when they are reached. -/
def forwardTo (target : Nat) : (ends : List Nat) → Source → Source
  | [], s => s.forward (target - s.place.index)
  | e :: ends, s =>
    if target ≤ s.reached then s.forward (target - s.place.index)
    else forwardTo target ends
      { (s.forward (s.reached - s.place.index)).note with reached := e, ends }

/-- The source behind a number of characters of one line. -/
def advance (s : Source) (n : Nat) : Source := forwardTo (s.place.index + n) s.ends s

/-- The source behind the line end that comes next. -/
def nextLine (s : Source) : Source :=
  let width := lineEndWidth s.rest
  { s with
    rest := s.rest.drop width
    place := ⟨s.place.index + width, s.place.line + 1, 0⟩ }

/-- The source at a place further on. `fuel` bounds the number of steps. -/
def reach (target : Nat) : (fuel : Nat) → Source → Source
  | 0, s => s
  | fuel + 1, s =>
    if target ≤ s.place.index then s
    else reach target fuel (if s.atLineEnd then s.nextLine else s.advance 1)

/-- The source at the end of the line. -/
def skipLine (s : Source) : Option Source :=
  (s.advance (s.rest.takeWhile fun c => !isLineEnd c).length).need 1

/-- How far ahead comments are looked for. -/
def commentReach : Nat := 512

/-- Whether a common line end comes first. -/
def atCommonEnd (rest : List Char) : Bool := rest.head?.any fun c => c == '\n' || c == '\r'

/-- The number of blanks and common line ends behind a common line end, as far as comments are
looked for. -/
def gapBehind (rest : List Char) : Nat :=
  let isGap := fun c => isBlank c || c == '\n' || c == '\r'
  if atCommonEnd rest then (((rest.drop 1).take (commentReach - 1)).takeWhile isGap).length else 0

/-- How many characters the search for a comment behind a line end looks at. Behind a line end that
is not a common one, the search looks at one more. -/
def searched (rest : List Char) : Nat :=
  let gap := gapBehind rest
  let uncommon := atCommonEnd rest && (rest.drop (gap + 1)).head?.any isLineEnd
  min commentReach (gap + if uncommon then 3 else 2)

/-- The distance from a line end to a further comment with nothing but white space before it. -/
def nextComment? (rest : List Char) : Option Nat :=
  let distance := gapBehind rest + 1
  if atCommonEnd rest && distance < commentReach && (rest.drop distance).head? == some '#' then
    some distance
  else none

/-- Skips a comment that comes next, and the comments on the lines below it. `fuel` bounds the
number of comments. -/
def skipComments : (fuel : Nat) → Source → Option Source
  | 0, s => some s
  | fuel + 1, s => do
    let s ← s.skipLine
    let s ← s.need (searched s.rest)
    match nextComment? s.rest with
    | none => some s
    | some distance => skipComments fuel (s.reach (s.place.index + distance) distance)

/-- Skips a comment behind white space on the same line. -/
def skipLineComment (s : Source) : Option Source := do
  let blanks := (s.rest.takeWhile isBlank).length
  let s ← s.need (min commentReach (blanks + 1))
  if blanks < commentReach && (s.rest.drop blanks).head? == some '#' then
    (s.advance blanks).skipLine
  else some s

end Source

end Lisplet.Config
