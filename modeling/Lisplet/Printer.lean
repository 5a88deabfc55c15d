import Lisplet.Text.Template
import Lisplet.Value.Basic

/-!
# Printing with indentation

A printer collects text and indents it: two blanks per level go in front of every line that is not
empty, and they are written when the first byte of the line arrives. On top of it, long lists are
broken over several lines. Levels are signed words of 64 bits. A level below zero or beyond the
memory cannot be written, and a printer that meets a line at such a level stops there.
-/

namespace Lisplet

/-- A printer with the text it has written. -/
structure Printer where
  /-- How many levels a new line is indented. -/
  level : Int
  /-- How many bytes of contents the current line has; zero means that the line has not begun. -/
  column : Nat
  /-- The bytes written, last first. -/
  written : Text
  deriving Inhabited

/-- Why a line cannot be indented. -/
inductive MarginError where
  /-- The level is below zero. -/
  | negative
  /-- The number of blanks is no signed word. -/
  | overflow
  /-- The blanks do not fit into memory. -/
  | tooLong
  deriving DecidableEq, Repr

/-- The message on a line that cannot be indented. -/
def MarginError.message : MarginError → Text
  | .negative => text "strings: negative Repeat count"
  | .overflow => text "strings: Repeat output length overflow"
  | .tooLong => text "runtime error: makeslice: len out of range"

/-- The outcome of printing. -/
inductive Printed where
  /-- All of it was written. -/
  | done (p : Printer)
  /-- A line could not be indented; what stood in front of it was written. -/
  | stuck (p : Printer) (why : MarginError)
  deriving Inhabited

namespace Printed

/-- The printer afterwards. -/
def printer : Printed → Printer
  | .done p => p
  | .stuck p _ => p

/-- Goes on printing unless the printer is stuck. -/
def andThen : Printed → (Printer → Printed) → Printed
  | .done p, next => next p
  | .stuck p why, _ => .stuck p why

/-- Changes the printer, stuck or not. -/
def map (f : Printer → Printer) : Printed → Printed
  | .done p => .done (f p)
  | .stuck p why => .stuck (f p) why

end Printed

namespace Printer

/-- A printer that has written nothing. -/
def new : Printer := ⟨0, 0, []⟩

/-- The text written so far. -/
def contents (p : Printer) : Text := p.written.reverse

/-- The number of levels, after which they begin again at the lowest one. -/
def levelCount : Nat := 0x10000000000000000

/-- The level that a whole number stands for. -/
def wrapLevel (n : Int) : Int := n.bmod levelCount

/-- The printer with its level raised. -/
def indent (n : Int) (p : Printer) : Printer := { p with level := wrapLevel (p.level + n) }

/-- The printer with its level lowered, but not below zero. -/
def unindent (n : Int) (p : Printer) : Printer :=
  { p with level := max (wrapLevel (p.level - n)) 0 }

/-- Writes bytes as they are. -/
def emit (t : Text) (p : Printer) : Printer := { p with written := t.reverse ++ p.written }

/-- The blanks in front of a line. -/
def margin (p : Printer) : Text := List.replicate (2 * p.level.toNat) Text.blank

/-- The most blanks that fit into memory. -/
def widestMargin : Int := 0x1000000000000

/-- What keeps the printer from indenting a line, if anything does. -/
def marginError? (p : Printer) : Option MarginError :=
  if p.level < 0 then some .negative
  else if 2 * p.level ≤ widestMargin then none
  else if 2 * p.level < 0x8000000000000000 then some .tooLong
  else some .overflow

/-- Writes a piece of one line, with the margin in front if the line begins with it. -/
def printPiece (piece : Text) (p : Printer) : Printed :=
  if p.column = 0 ∧ piece ≠ [] then
    match p.marginError? with
    | some why => .stuck p why
    | none => .done { (p.emit p.margin).emit piece with column := piece.length }
  else .done { p.emit piece with column := p.column + piece.length }

/-- Ends the current line. -/
def endLine (p : Printer) : Printer := { p.emit [Text.newline] with column := 0 }

/-- Writes pieces with a line end between neighbours. -/
def printLines : List Text → Printer → Printed
  | [], p => .done p
  | [piece], p => p.printPiece piece
  | piece :: rest, p => (p.printPiece piece).andThen fun p => printLines rest p.endLine

/-- Writes a text, which may hold several lines. -/
def print (t : Text) (p : Printer) : Printed := printLines (t.splitOn Text.newline) p

/-- Writes a text and ends the line. -/
def println (t : Text) (p : Printer) : Printed := p.print (t ++ [Text.newline])

/-- Fills a template and writes it. -/
def printf (template : Text) (arguments : List Template.Argument) (p : Printer) : Printed :=
  p.print (Template.fill template arguments)

/-- Runs a block at a raised level. The level is lowered again also when the block is stuck. -/
def withIndent (n : Int) (block : Printer → Printed) (p : Printer) : Printed :=
  (block (p.indent n)).map (unindent n)

/-- The width up to which a list is kept on one line. -/
def maxLineWidth : Nat := 60

/-- Whether a value is broken over several lines: a list of two or more items whose text is too
wide. -/
def breaks (v : Value) : Bool :=
  match v with
  | .list (_ :: _ :: _) => maxLineWidth < v.source.length
  | _ => false

mutual

/-- Writes a value. A list that is broken has its head on the first line and each further item on
a line of its own, one level deeper. -/
def pretty : Value → Printer → Printed
  | .list (head :: rest), p =>
    if breaks (.list (head :: rest)) then
      (p.print (text "(")).andThen fun p =>
        (pretty head p).andThen fun p =>
          (withIndent 1 (prettyItems rest) p).andThen fun p => p.print (text ")")
    else p.print (Value.list (head :: rest)).source
  | v, p => p.print v.source

/-- Writes each value on a line of its own. -/
def prettyItems : List Value → Printer → Printed
  | [], p => .done p
  | v :: rest, p =>
    (p.print [Text.newline]).andThen fun p =>
      (pretty v p).andThen fun p => prettyItems rest p

end

end Printer

/-- A value as source text, its long lists broken over several lines. -/
def Value.prettySource (v : Value) : Text := (Printer.pretty v Printer.new).printer.contents

end Lisplet
