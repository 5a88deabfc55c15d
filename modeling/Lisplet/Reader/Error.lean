import Lisplet.Reader.Position

/-!
# Errors of the reader

An error tells what went wrong and where the failing form began. It is incomplete if the source
ran out before a form was closed, so that more input could still make it readable.
-/

namespace Lisplet

/-- The ways in which reading fails. -/
inductive ReadErrorKind where
  /-- Nothing is left to read, or a form begins with nothing that is known. -/
  | generic
  /-- The text is no number. -/
  | notANumber
  /-- The text is no truth value. -/
  | notABoolean
  /-- The text is no string. -/
  | notAString
  /-- The text is no list. -/
  | notAList
  /-- The text is no call. -/
  | notAFunctionCall
  /-- A string has no end. -/
  | unterminatedString
  /-- A round bracket has no counterpart. -/
  | unbalancedParenthesis
  /-- A brace has no counterpart. -/
  | unbalancedBraces
  /-- A number is written wrongly or out of range. -/
  | invalidNumber
  /-- A symbol was expected where none can begin. -/
  | invalidSymbol
  /-- A kind outside this list, known by its number. -/
  | unlisted (number : Int)
  deriving DecidableEq, Repr

namespace ReadErrorKind

/-- The kinds of the list, in the order of their numbers. -/
def listed : List ReadErrorKind :=
  [.generic, .notANumber, .notABoolean, .notAString, .notAList, .notAFunctionCall,
    .unterminatedString, .unbalancedParenthesis, .unbalancedBraces, .invalidNumber,
    .invalidSymbol]

/-- The kind with a given number. -/
def ofNumber (n : Int) : ReadErrorKind :=
  if n < 0 then .unlisted n else listed[n.toNat]?.getD (.unlisted n)

/-- The name of a kind. -/
def name : ReadErrorKind → Text
  | .generic => text "parse error"
  | .notANumber => text "not a number"
  | .notABoolean => text "not a boolean"
  | .notAString => text "not a string"
  | .notAList => text "not a list"
  | .notAFunctionCall => text "not a function call"
  | .unterminatedString => text "unterminated string"
  | .unbalancedParenthesis => text "unbalanced parenthesis"
  | .unbalancedBraces => text "unbalanced braces"
  | .invalidNumber => text "invalid number"
  | .invalidSymbol => text "invalid symbol"
  | .unlisted n => text "ErrorKind(" ++ Text.ofInt n ++ text ")"

/-- Whether a failure of this kind only means that the next kind of form is to be tried. -/
def fallsThrough : ReadErrorKind → Bool
  | .notANumber => true
  | .notABoolean => true
  | .notAString => true
  | .notAList => true
  | .notAFunctionCall => true
  | _ => false

end ReadErrorKind

/-- An error of the reader. -/
structure ReadError where
  /-- What went wrong. -/
  kind : ReadErrorKind
  /-- The byte offset where the failing form began. -/
  offset : Int
  /-- Its line; an error without a line has none to show. -/
  line : Int
  /-- Its column. -/
  column : Int
  /-- A remark, which may be empty. -/
  note : Text
  /-- Whether more input could make the source readable. -/
  incomplete : Bool

namespace ReadError

/-- An error at a place. -/
def located (kind : ReadErrorKind) (place : Position) (note : Text) : ReadError :=
  ⟨kind, place.offset, place.line, place.column, note, false⟩

/-- An error at a place where the source ran out. -/
def ranOut (kind : ReadErrorKind) (place : Position) : ReadError :=
  ⟨kind, place.offset, place.line, place.column, [], true⟩

/-- The message of an error. -/
def message (e : ReadError) : Text :=
  let what := if e.note.isEmpty then e.kind.name else e.kind.name ++ text ": " ++ e.note
  if 0 < e.line then
    text "Error at Line " ++ Text.ofInt e.line ++ text ", Col " ++ Text.ofInt e.column
      ++ text ": " ++ what
  else what

end ReadError

end Lisplet
