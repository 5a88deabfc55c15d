import Lisplet.Text.Rune

/-!
# Templates

A template is a text with places: `%s` takes a text, `%d` a whole number, and `%%` is a percent
sign. A place that finds no argument or one of the wrong kind says so in the output, and so do
arguments that no place takes.
-/

namespace Lisplet.Template

/-- What can be put into a place. -/
inductive Argument where
  /-- A text. -/
  | text (t : Text)
  /-- A whole number. -/
  | number (n : Int)

namespace Argument

/-- The argument as it is written in its own place. -/
def inPlace : Argument → Text
  | .text t => t
  | .number n => Text.ofInt n

/-- The name of the argument's kind. -/
def kindName : Argument → Text
  | .text _ => Lisplet.text "string"
  | .number _ => Lisplet.text "int"

/-- The argument with its kind, for a note. -/
def describe (a : Argument) : Text := a.kindName ++ Lisplet.text "=" ++ a.inPlace

/-- Whether a place marked with the given letter takes the argument. -/
def fits (letter : Rune) : Argument → Bool
  | .text _ => letter.isChar 's'
  | .number _ => letter.isChar 'd'

end Argument

/-- What stands in a place that cannot take its argument. -/
def misfit (letter : Rune) (argument : Argument) : Text :=
  text "%!" ++ letter.bytes ++ text "(" ++ argument.describe ++ text ")"

/-- The text of one place. -/
def fillPlace (letter : Rune) : List Argument → Text × List Argument
  | [] => (text "%!" ++ letter.bytes ++ text "(MISSING)", [])
  | a :: rest => (if a.fits letter then a.inPlace else misfit letter a, rest)

/-- The note on arguments that no place took. -/
def leftover : List Argument → Text
  | [] => []
  | rest => text "%!(EXTRA " ++ Text.join (text ", ") (rest.map Argument.describe) ++ text ")"

/-- The template with its places filled from left to right. -/
def fillRunes : List Rune → List Argument → Text
  | [], rest => leftover rest
  | r :: template, arguments =>
    if r.isChar '%' then
      match template with
      | [] => text "%!(NOVERB)" ++ leftover arguments
      | letter :: template =>
        if letter.isChar '%' then text "%" ++ fillRunes template arguments
        else
          let place := fillPlace letter arguments
          place.1 ++ fillRunes template place.2
    else r.bytes ++ fillRunes template arguments

/-- Fills a template. -/
def fill (template : Text) (arguments : List Argument) : Text :=
  fillRunes template.runes arguments

end Lisplet.Template
