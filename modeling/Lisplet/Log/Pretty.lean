import Lisplet.Colour
import Lisplet.Log.Line

/-!
# Log lines for people

A terminal gets one line per record, with the time of day, the severity, the message and the fields,
each in its colour. Fields can be attached to a handler once for all its records, and groups put
their name in front of the names of later fields.
-/

namespace Lisplet.Log

/-- What a field holds. -/
inductive FieldValue where
  /-- A text. -/
  | text (t : Text)
  /-- A whole number. -/
  | number (n : Int)
  /-- A truth value. -/
  | truth (b : Bool)

/-- The value of a field in words. -/
def FieldValue.describe : FieldValue → Text
  | .text t => t
  | .number n => Text.ofInt n
  | .truth b => Lisplet.text (if b then "true" else "false")

/-- A named value. -/
structure Field where
  /-- The name. -/
  key : Text
  /-- The value. -/
  value : FieldValue

/-- A handler of records. -/
structure Handler where
  /-- The least severity that is enabled, if one is set. -/
  minimum : Option Severity
  /-- Whether colours are on. -/
  colours : Bool
  /-- The names of the groups, each with a point behind it. -/
  groups : Text
  /-- The attached fields in words. -/
  attached : List Text

namespace Handler

/-- A handler without groups and fields. -/
def new (minimum : Option Severity) (colours : Bool) : Handler := ⟨minimum, colours, [], []⟩

/-- Whether records of a severity are enabled. -/
def enabled (h : Handler) (s : Severity) : Bool := (h.minimum.getD .info).weight ≤ s.weight

/-- A field in words, its name led by the groups. -/
def describe (h : Handler) (f : Field) : Text :=
  h.groups ++ f.key ++ text "=" ++ f.value.describe

/-- The handler with further fields attached. -/
def attach (h : Handler) (fields : List Field) : Handler :=
  { h with attached := h.attached ++ fields.map h.describe }

/-- The handler inside a further group. A group without a name changes nothing. -/
def group (h : Handler) (name : Text) : Handler :=
  if name.isEmpty then h else { h with groups := h.groups ++ name ++ text "." }

/-- The colour of a severity; only the named steps have one. -/
def colour? (s : Severity) : Option Colour :=
  if s = .debug then some .magenta
  else if s = .info then some .blue
  else if s = .warn then some .yellow
  else if s = .error then some .red
  else none

/-- A number with zeros in front up to a width. -/
def padded (width n : Nat) : Text :=
  let digits := Text.ofNat n
  List.replicate (width - digits.length) 48 ++ digits

/-- The time of day of a moment, given in milliseconds since the start of some day. -/
def timeOfDay (milliseconds : Int) : Text :=
  let t := (milliseconds % 86400000).toNat
  text "[" ++ padded 2 (t / 3600000) ++ text ":" ++ padded 2 (t / 60000 % 60) ++ text ":"
    ++ padded 2 (t / 1000 % 60) ++ text "." ++ padded 3 (t % 1000) ++ text "]"

/-- A record as a line, the time of day left out. -/
def line (h : Handler) (s : Severity) (message : Text) (fields : List Field) : Text :=
  let name := s.name ++ text ":"
  let name := match colour? s with
    | some c => c.paint h.colours name
    | none => name
  let described := h.attached ++ fields.map h.describe
  let message := Colour.cyan.paint h.colours message
  let parts :=
    if described.isEmpty then [name, message]
    else [name, message, Colour.white.paint h.colours (Text.join (text " ") described)]
  Text.join (text " ") parts ++ [Text.newline]

/-- A record as a line that begins with the time of day. -/
def timedLine (h : Handler) (s : Severity) (message : Text) (fields : List Field)
    (milliseconds : Int) : Text :=
  timeOfDay milliseconds ++ text " " ++ h.line s message fields

end Handler

end Lisplet.Log
