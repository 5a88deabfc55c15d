import Lisplet.Text.Blank

/-!
# Places in a source text

A place is a byte offset with its line and column, both counted from one; columns count runes. An
input is what is left of a source from some place on. Reading moves over an input rune by rune, and
the place follows.
-/

namespace Lisplet

/-- A place in a source text. -/
structure Position where
  /-- The number of bytes in front of the place. -/
  offset : Nat
  /-- The line, counted from one. -/
  line : Nat
  /-- The column, counted from one in runes. -/
  column : Nat
  deriving DecidableEq, Repr

namespace Position

/-- The place where every source begins. -/
def start : Position := ⟨0, 1, 1⟩

/-- The place behind a rune. -/
def after (p : Position) (r : Rune) : Position :=
  if r.isChar '\n' then ⟨p.offset + r.width, p.line + 1, 1⟩
  else ⟨p.offset + r.width, p.line, p.column + 1⟩

/-- The place behind a sequence of runes. -/
def afterAll (p : Position) (rs : List Rune) : Position := rs.foldl after p

end Position

/-- What is left of a source text. -/
structure Input where
  /-- The place of the first rune that is left. -/
  place : Position
  /-- The runes that are left. -/
  rest : List Rune
  deriving DecidableEq, Repr

namespace Input

/-- A source text from a place on. -/
def ofSource (source : Text) (place : Position) : Input :=
  ⟨place, Text.runes (source.drop place.offset)⟩

/-- Whether nothing is left. -/
def atEnd (i : Input) : Bool := i.rest.isEmpty

/-- The next rune. -/
def peek? (i : Input) : Option Rune := i.rest.head?

/-- Whether the next rune is a given character. -/
def looksAt (i : Input) (c : Char) : Bool := i.peek?.any fun r => r.isChar c

/-- The input behind the next rune. -/
def advance (i : Input) : Input :=
  match i.rest with
  | [] => i
  | r :: rest => ⟨i.place.after r, rest⟩

/-- The longest run of runes with a property, and the input behind it. -/
def span (i : Input) (p : Rune → Bool) : List Rune × Input :=
  (i.rest.takeWhile p, ⟨i.place.afterAll (i.rest.takeWhile p), i.rest.dropWhile p⟩)

/-- The input behind any white space. -/
def skipBlanks (i : Input) : Input := (i.span Rune.isBlank).2

end Input

end Lisplet
