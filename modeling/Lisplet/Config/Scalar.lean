import Lisplet.Config.Source

/-!
# Scalars of a configuration

A scalar is written plainly, in single or double quotes, or as a block of lines. Inside plain and
quoted scalars a line end counts as a blank, and every empty line behind it as a line end.
-/

namespace Lisplet.Config

/-- A scalar that was read. -/
structure Scanned where
  /-- The contents. -/
  contents : List Char
  /-- Whether line ends behind the contents were read. -/
  endsLine : Bool
  /-- What is left behind it. -/
  source : Source

/-- The white space between two parts of a scalar. -/
structure Gap where
  /-- Whether the gap holds a line end. -/
  broken : Bool
  /-- What the first line end contributes; nothing if it is escaped. -/
  first : List Char
  /-- What the other line ends contribute, last first. -/
  others : List Char
  /-- The blanks in front of any line end, last first. -/
  blanks : List Char

namespace Gap

/-- No white space. -/
def none : Gap := ⟨false, [], [], []⟩

/-- An escaped line end. -/
def escaped : Gap := ⟨true, [], [], []⟩

/-- Whether there is any white space. -/
def isNone (g : Gap) : Bool := !g.broken && g.blanks.isEmpty

/-- The gap with a further blank. -/
def blank (g : Gap) (c : Char) : Gap := if g.broken then g else { g with blanks := c :: g.blanks }

/-- The gap with a further line end. -/
def lineEnd (g : Gap) (contents : List Char) : Gap :=
  if g.broken then { g with others := contents ++ g.others } else ⟨true, contents, [], []⟩

/-- What the gap contributes to the contents, last first. A single line end counts as a blank. -/
def reversed (g : Gap) : List Char :=
  if !g.broken then g.blanks
  else if g.first == ['\n'] then if g.others.isEmpty then [' '] else g.others
  else g.others ++ g.first

end Gap

/-- Whether a line marks the border of a document: three marks with nothing joined to them. -/
def isBorder (mark : Char) : List Char → Bool
  | a :: b :: c :: rest => a == mark && b == mark && c == mark && endsToken rest
  | _ => false

/-- Whether the border of a document comes next. -/
def Source.atBorder (s : Source) : Bool :=
  s.column == 0 && (isBorder '-' s.rest || isBorder '.' s.rest)

/-- Whether a plain scalar ends in front of the given characters. -/
def endsPlain (bracketed : Bool) : List Char → Bool
  | [] => true
  | c :: rest =>
    (c == ':' && endsToken rest)
      || bracketed && (c == ',' || c == '?' || c == '[' || c == ']' || c == '\x7b' || c == '\x7d')

/-- Reads on in a plain scalar. Its lines begin no further left than in column `floor`, unless it
stands in brackets; a tab may not take part in the indentation. `fuel` bounds the number of
characters. -/
def plainFrom (bracketed : Bool) (floor : Nat) :
    (fuel : Nat) → (written : List Char) → Gap → Source → Option Scanned
  | 0, _, _, _ => none
  | fuel + 1, written, gap, s =>
    match s.rest with
    | [] => some ⟨written.reverse, gap.broken, s⟩
    | c :: rest =>
      if isBlank c then
        if c == '\t' && gap.broken && s.column < floor then none
        else do plainFrom bracketed floor fuel written (gap.blank c) (← (s.advance 1).need 1)
      else if isLineEnd c then do
        let s ← s.need 2
        let s' ← s.nextLine.need 1
        plainFrom bracketed floor fuel written (gap.lineEnd (lineEndContents s.rest)) s'
      else if !gap.isNone && (c == '#' || s.atBorder || (!bracketed && s.column < floor))
          || endsPlain bracketed (c :: rest) then
        some ⟨written.reverse, gap.broken, s⟩
      else do
        let s ← s.need (if gap.isNone then 1 else 4)
        let s ← (s.advance 1).need 2
        plainFrom bracketed floor fuel (c :: gap.reversed ++ written) .none s

/-- The characters that begin no plain scalar. -/
def indicators : List Char :=
  ['-', '?', ':', ',', '[', ']', '\x7b', '\x7d', '#', '&', '*', '!', '|', '>', '\'', '"', '%', '@',
    Char.ofNat 96]

/-- Whether a plain scalar begins with the given characters. -/
def beginsPlain (bracketed : Bool) : List Char → Bool
  | [] => false
  | c :: rest =>
    !(isBlank c || isLineEnd c || indicators.contains c)
      || (c == '-' && !rest.head?.any isBlank)
      || (!bracketed && (c == '?' || c == ':') && !endsToken rest)

/-- Reads a plain scalar. -/
def plainScalar (bracketed : Bool) (floor : Nat) (s : Source) : Option Scanned :=
  if beginsPlain bracketed s.rest then
    plainFrom bracketed floor (s.bound + 1) [] .none s
  else none

/-- Reads on in a scalar in quotes, with a function that reads what one of its characters or escapes
gives. A border of a document may not stand in it. `fuel` bounds the number of characters. -/
def quotedFrom (quote : Char) (piece : List Char → Option (Option Char × Nat)) :
    (fuel : Nat) → (written : List Char) → Gap → Source → Option Scanned
  | 0, _, _, _ => none
  | fuel + 1, written, gap, s =>
    match s.rest with
    | [] => none
    | c :: _ =>
      if isBlank c then do
        quotedFrom quote piece fuel written (gap.blank c) (← (s.advance 1).need 1)
      else if isLineEnd c then do
        let s ← s.need 2
        let s' ← s.nextLine.need 1
        quotedFrom quote piece fuel written (gap.lineEnd (lineEndContents s.rest)) s'
      else if s.atBorder then none
      else do
        let s ← s.need (if gap.isNone then 2 else 4)
        let written := gap.reversed ++ written
        match piece s.rest with
        | none =>
          if c == quote then some ⟨written.reverse, false, s.advance 1⟩ else none
        | some (some c, width) => do
          let s ← s.need width
          quotedFrom quote piece fuel (c :: written) .none (← (s.advance width).need 2)
        | some (none, width) => do
          let s ← s.need 3
          quotedFrom quote piece fuel written .escaped (← (s.advance width).nextLine.need 1)

/-- What the next character of a scalar in single quotes gives, and its width. A quote is written
twice. -/
def singlePiece : List Char → Option (Option Char × Nat)
  | '\'' :: '\'' :: _ => some (some '\'', 2)
  | '\'' :: _ => none
  | c :: _ => some (some c, 1)
  | [] => none

/-- The value of a hexadecimal digit. -/
def hexDigit? (c : Char) : Option Nat :=
  if '0' ≤ c && c ≤ '9' then some (c.toNat - 48)
  else if 'a' ≤ c && c ≤ 'f' then some (c.toNat - 87)
  else if 'A' ≤ c && c ≤ 'F' then some (c.toNat - 55)
  else none

/-- The character whose number is given by hexadecimal digits. -/
def hexChar? (digits : List Char) : Option Char :=
  (digits.foldl (fun n d => do pure (16 * (← n) + (← hexDigit? d))) (some 0)).bind fun n =>
    if h : n.isValidChar then some (Char.ofNatAux n h) else none

/-- What an escape with one letter stands for. -/
def escape? (c : Char) : Option Char :=
  match c with
  | '0' => some '\x00'
  | 'a' => some '\x07'
  | 'b' => some '\x08'
  | 't' => some '\t'
  | '\t' => some '\t'
  | 'n' => some '\n'
  | 'v' => some '\x0b'
  | 'f' => some '\x0c'
  | 'r' => some '\r'
  | 'e' => some '\x1b'
  | ' ' => some ' '
  | '"' => some '"'
  | '\'' => some '\''
  | '\\' => some '\\'
  | 'N' => some (Char.ofNat 0x85)
  | '_' => some (Char.ofNat 0xA0)
  | 'L' => some (Char.ofNat 0x2028)
  | 'P' => some (Char.ofNat 0x2029)
  | _ => none

/-- The number of hexadecimal digits behind an escape letter. -/
def escapeDigits (c : Char) : Nat :=
  if c == 'x' then 2 else if c == 'u' then 4 else if c == 'U' then 8 else 0

/-- What the next character or escape of a scalar in double quotes gives, and its width. An escaped
line end gives nothing. -/
def doublePiece : List Char → Option (Option Char × Nat)
  | '"' :: _ => none
  | '\\' :: letter :: rest =>
    let width := escapeDigits letter
    if isLineEnd letter then some (none, 1)
    else if width == 0 then (escape? letter).map fun c => (some c, 2)
    else if rest.length < width then none
    else (hexChar? (rest.take width)).map fun c => (some c, 2 + width)
  | '\\' :: [] => none
  | c :: _ => some (some c, 1)
  | [] => none

/-- Reads a scalar in quotes. -/
def quotedScalar (s : Source) : Option Scanned :=
  let fuel := s.bound + 1
  match s.peek? with
  | some '\'' => quotedFrom '\'' singlePiece fuel [] .none (s.advance 1)
  | some '"' => quotedFrom '"' doublePiece fuel [] .none (s.advance 1)
  | _ => none

/-- What becomes of the line ends behind the last line of a block. -/
inductive Chomping where
  /-- All are dropped. -/
  | strip
  /-- One is kept. -/
  | clip
  /-- All are kept. -/
  | keep
  deriving DecidableEq

/-- The start of a block scalar. -/
structure BlockHeader where
  /-- Whether line ends are kept as they are. -/
  literal : Bool
  /-- What becomes of the last line ends. -/
  chomping : Chomping
  /-- The indentation beyond that of the surroundings, if it is given. -/
  increment : Option Nat

/-- Reads a sign that says what becomes of the last line ends, if there is one. -/
def BlockHeader.sign (h : BlockHeader) (s : Source) : BlockHeader × Source :=
  match s.peek? with
  | some '+' => ({ h with chomping := .keep }, s.advance 1)
  | some '-' => ({ h with chomping := .strip }, s.advance 1)
  | _ => (h, s)

/-- Reads the indentation of a block header, if there is one. It cannot be zero. -/
def BlockHeader.digit (h : BlockHeader) (s : Source) : Option (BlockHeader × Source) :=
  match s.peek? with
  | some c =>
    if c == '0' then none
    else if c.isDigit then some ({ h with increment := some (c.toNat - 48) }, s.advance 1)
    else some (h, s)
  | none => some (h, s)

/-- Reads a block header up to the end of its line. -/
def blockHeader (literal : Bool) (s : Source) : Option (BlockHeader × Source) := do
  let h : BlockHeader := ⟨literal, .clip, none⟩
  let s ← (s.advance 1).need 1
  let signFirst := s.peek? == some '+' || s.peek? == some '-'
  let (h, s) := h.sign s
  let s ← s.need 1
  let (h, s) ← h.digit s
  let s ← s.need 1
  let (h, s) := if signFirst || h.increment.isNone then (h, s) else h.sign s
  let s ← (s.advance (s.rest.takeWhile isBlank).length).need 1
  let s ← if s.peek? == some '#' then s.skipLine else some s
  if s.rest.isEmpty then some (h, s)
  else if s.atLineEnd then do pure (h, (← s.need 2).nextLine)
  else none

/-- Skips the indentation of the next line of a block and the empty lines in front of it. The result
is what the empty lines contribute, last first, and the widest indentation. An indentation of zero
is not known yet. A tab may not take part in the indentation. `fuel` bounds the number of lines. -/
def blockIndentation (indent : Nat) :
    (fuel : Nat) → (widest : Nat) → (breaks : List Char) → Source →
      Option (List Char × Nat × Source)
  | 0, _, _, _ => none
  | fuel + 1, widest, breaks, s => do
    let s ← s.need 1
    let spaces := (s.rest.takeWhile (· == ' ')).length
    let s ← (s.advance (if indent == 0 then spaces else min spaces (indent - s.column))).need 1
    let widest := max widest s.column
    if (indent == 0 || s.column < indent) && s.peek? == some '\t' then none
    else if s.atLineEnd then do
      let s ← s.need 2
      blockIndentation indent fuel widest (lineEndContents s.rest ++ breaks) s.nextLine
    else some (breaks, widest, s)

/-- The state of reading a block. -/
structure Block where
  /-- The contents, last first. -/
  written : List Char
  /-- The line end behind the last line with contents. -/
  lineEnd : List Char
  /-- The line ends behind that one, last first. -/
  breaks : List Char
  /-- Whether the last line with contents begins with white space. -/
  leadingBlank : Bool

/-- Puts the line ends in front of a new line with contents. A folded block turns a single one into
a blank, unless one of the two lines begins with white space. -/
def Block.open (b : Block) (literal blank : Bool) : List Char :=
  let folds := !literal && !b.leadingBlank && !blank && b.lineEnd == ['\n']
  let first := if folds then if b.breaks.isEmpty then [' '] else [] else b.lineEnd
  b.breaks ++ first ++ b.written

/-- The contents of a block that has ended. -/
def Block.close (b : Block) (chomping : Chomping) : List Char :=
  let first := if chomping == .strip then [] else b.lineEnd
  let others := if chomping == .keep then b.breaks else []
  (others ++ first ++ b.written).reverse

/-- Reads the lines of a block with a known indentation. `fuel` bounds the number of lines. -/
def blockLines (h : BlockHeader) (indent : Nat) : (fuel : Nat) → Block → Source → Option Scanned
  | 0, _, _ => none
  | fuel + 1, b, s => do
    let s ← s.need 1
    match s.peek? with
    | none => some ⟨b.close h.chomping, true, s⟩
    | some c =>
      if s.column != indent then some ⟨b.close h.chomping, true, s⟩
      else
        let line := s.rest.takeWhile fun c => !isLineEnd c
        let written := line.reverse ++ b.open h.literal (isBlank c)
        let s ← (s.advance line.length).need 2
        let lineEnd := lineEndContents s.rest
        let s := if s.atLineEnd then s.nextLine else s
        let (breaks, _, s) ← blockIndentation indent (s.bound + 1) 0 [] s
        blockLines h indent fuel ⟨written, lineEnd, breaks, isBlank c⟩ s

/-- Reads a block scalar. Its lines begin no further left than in column `floor`. If the header gives
no indentation, that of the first line with contents counts, but no less than that of the empty
lines in front of it. -/
def blockScalar (floor : Nat) (s : Source) : Option Scanned := do
  let (h, s) ← blockHeader (s.peek? == some '|') s
  let given := h.increment.elim 0 fun n => floor - 1 + n
  let (breaks, widest, s) ← blockIndentation given (s.bound + 1) 0 [] s
  let indent := if given == 0 then max widest (max floor 1) else given
  blockLines h indent (s.bound + 1) ⟨[], [], breaks, false⟩ s

end Lisplet.Config
