import Lisplet.Spelling
import Lisplet.Text.LetterCase

/-!
# Log levels

A level ranks how urgent a message is. A log takes the messages that are at least as urgent as its
own level, except that a log which is switched off takes none.
-/

namespace Lisplet.Log

/-- How urgent a message is, or the least urgency that a log takes. -/
structure Level where
  /-- The place in the order of levels. -/
  rank : Int
  deriving DecidableEq, Repr, Inhabited

namespace Level

/-- Details for debugging. -/
def debug : Level := ⟨0⟩

/-- Information. -/
def info : Level := ⟨1⟩

/-- Warnings. -/
def warn : Level := ⟨2⟩

/-- Errors. -/
def error : Level := ⟨3⟩

/-- No messages at all. -/
def off : Level := ⟨4⟩

/-- The levels that have names, in order. -/
def named : List (Level × Text) :=
  [(debug, text "DEBUG"), (info, text "INFO"), (warn, text "WARN"), (error, text "ERROR"),
    (off, text "OFF")]

/-- The name of a level. -/
def name (l : Level) : Text := (named.lookup l).getD (text "UNKNOWN")

/-- The spellings of levels that are understood. -/
def spellings : List (Text × Level) :=
  named.map (fun entry => (entry.2, entry.1)) ++ [(text "WARNING", warn), (text "NONE", off)]

/-- The level with a given spelling, in whatever case. -/
def parse (t : Text) : Except Unknown Level :=
  match spellings.lookup t.toCapital with
  | some l => .ok l
  | none => .error ⟨text "log level", t⟩

/-- Whether a log at this level takes messages of a given level. -/
def takes (l message : Level) : Bool := !(message.rank < l.rank) && l != off

end Level

/-- A message with its level. -/
structure Record where
  /-- How urgent the message is. -/
  level : Level
  /-- The message. -/
  message : Text
  deriving DecidableEq, Repr

end Lisplet.Log
