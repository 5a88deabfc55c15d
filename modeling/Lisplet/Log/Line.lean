import Lisplet.Log.Level
import Lisplet.Text.Blank
import Lisplet.Text.Quoted

/-!
# Log lines

A record is written as a line of fields. A field is quoted if it could not be told apart from its
surroundings otherwise.
-/

namespace Lisplet.Log

/-- How severe a record is, on a scale that leaves room between the named steps. -/
structure Severity where
  /-- The place on the scale. -/
  weight : Int
  deriving DecidableEq, Repr

namespace Severity

/-- Details. -/
def debug : Severity := ⟨-4⟩

/-- Information. -/
def info : Severity := ⟨0⟩

/-- Warnings. -/
def warn : Severity := ⟨4⟩

/-- Errors. -/
def error : Severity := ⟨8⟩

/-- A name with a signed distance behind it, unless the distance is zero. -/
def offsetName (name : Text) (distance : Int) : Text :=
  if distance = 0 then name
  else if distance < 0 then name ++ Text.ofInt distance
  else name ++ text "+" ++ Text.ofInt distance

/-- The name of a severity: the named step below it and the distance from there. -/
def name (s : Severity) : Text :=
  if s.weight < info.weight then offsetName (text "DEBUG") (s.weight - debug.weight)
  else if s.weight < warn.weight then offsetName (text "INFO") (s.weight - info.weight)
  else if s.weight < error.weight then offsetName (text "WARN") (s.weight - warn.weight)
  else offsetName (text "ERROR") (s.weight - error.weight)

end Severity

/-- The severity of records at a level. -/
def Level.severity (l : Level) : Severity :=
  if l = .debug then .debug
  else if l = .warn then .warn
  else if l = .error then .error
  else .info

/-- Whether a rune forces quotes around a field. A backslash alone does not. -/
def forcesQuotes (r : Rune) : Bool :=
  let n := r.code
  if n < 0x80 then n ≤ 0x20 || r.isChar '=' || r.isChar '"'
  else n == Rune.replacement || isBlankCode n || !Text.isPrintable n

/-- A text as the value of a field. -/
def fieldText (t : Text) : Text :=
  if t.isEmpty || t.runes.any forcesQuotes then t.quoted else t

/-- A record as a line. -/
def Record.line (r : Record) : Text :=
  text "level=" ++ r.level.severity.name ++ text " msg=" ++ fieldText r.message ++ [Text.newline]

end Lisplet.Log
