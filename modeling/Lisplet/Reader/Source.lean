import Lisplet.Reader.Form

/-!
# Reading source text

A reader walks through a source and hands out one expression after the other. It remembers only its
place, so the source is given anew to each call.
-/

namespace Lisplet

namespace Reader

/-- Reads the next expression, white space in front of it aside. -/
def expression (i : Input) : Reading Value :=
  let i := i.skipBlanks
  match i.rest with
  | [] => .error (.located .generic i.place (text "unexpected end of input"))
  | r :: _ =>
    if r.isChar ')' then
      .error (.located .unbalancedParenthesis i.place (text "unexpected " ++ r.quoted))
    else if r.isChar '\x7d' then
      .error (.located .unbalancedBraces i.place (text "unexpected " ++ r.quoted))
    else form i

/-- The outcome of reading a whole source. -/
structure Forms where
  /-- The expressions that were read. -/
  forms : List Value
  /-- The error that ended the reading early, if any. -/
  error : Option ReadError
  /-- Where the reading ended: at the end, or in front of the expression that failed. -/
  behind : Input

/-- Reads expressions until the input ends or one fails. `fuel` bounds their number; the length of
the input is enough. -/
def expressionsFrom : (fuel : Nat) → Input → Forms
  | 0, i => ⟨[], none, i.skipBlanks⟩
  | fuel + 1, i =>
    let i := i.skipBlanks
    if i.atEnd then ⟨[], none, i⟩
    else match expression i with
      | .error e => ⟨[], some e, i⟩
      | .ok (v, behind) =>
        let more := expressionsFrom fuel behind
        { more with forms := v :: more.forms }

/-- Reads all expressions of an input. -/
def expressions (i : Input) : Forms := expressionsFrom i.rest.length i

end Reader

/-- A reader, which is a place in a source. -/
structure Reader where
  /-- Where the next call begins. -/
  place : Position

namespace Reader

/-- A reader at the start. -/
def new : Reader := ⟨.start⟩

/-- The input that a source holds for the reader. -/
def input (r : Reader) (source : Text) : Input := .ofSource source r.place

/-- Whether the reader has reached the end of a source. -/
def atEnd (r : Reader) (source : Text) : Bool := source.length ≤ r.place.offset

/-- Moves over white space. -/
def skip (r : Reader) (source : Text) : Reader := ⟨(r.input source).skipBlanks.place⟩

/-- Reads the next expression. On an error the reader stays where it is. -/
def read (r : Reader) (source : Text) : Except ReadError Value × Reader :=
  match expression (r.input source) with
  | .error e => (.error e, r)
  | .ok (v, behind) => (.ok v, ⟨behind.place⟩)

/-- Reads all expressions that are left. On an error the reader stays in front of the expression
that failed. -/
def readAll (r : Reader) (source : Text) : List Value × Option ReadError × Reader :=
  let result := expressions (r.input source)
  (result.forms, result.error, ⟨result.behind.place⟩)

end Reader

/-- The first expression of a source. -/
def parse (source : Text) : Except ReadError Value := (Reader.new.read source).1

/-- All expressions of a source: those read before the first error, and that error. -/
def parseForms (source : Text) : List Value × Option ReadError :=
  let result := Reader.new.readAll source
  (result.1, result.2.1)

/-- All expressions of a source, if it has no error. -/
def parseAll (source : Text) : Except ReadError (List Value) :=
  match parseForms source with
  | (forms, none) => .ok forms
  | (_, some e) => .error e

end Lisplet
