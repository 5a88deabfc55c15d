import Lisplet.Log.Line
import Lisplet.Text.Template

/-!
# Journals

A journal is the log of a whole program. It writes its lines to a book. Another book can take its
place for a while, or the journal can be silenced, and either can be undone later.
-/

namespace Lisplet.Log

/-- Where messages go, and which of them. -/
structure Logger where
  /-- The level of messages that are taken. -/
  level : Level
  /-- The number of the book they are written to; without one they are dropped. -/
  book : Option Nat

/-- What is put back when a change is undone. -/
inductive Undo where
  /-- The level of the logger. -/
  | level (l : Level)
  /-- The logger itself. -/
  | logger (l : Logger)

/-- The log of a program. -/
structure Journal where
  /-- The logger in use. -/
  logger : Logger
  /-- The changes that can be undone, the latest first. -/
  changes : List Undo
  /-- The books; the first belongs to the journal from the start. -/
  books : Array Text

namespace Journal

/-- A journal with one empty book. -/
def new (level : Level) : Journal := ⟨⟨level, some 0⟩, [], #[[]]⟩

/-- The level of the logger in use. -/
def level (j : Journal) : Level := j.logger.level

/-- The journal with empty pages in all books. -/
def turnPage (j : Journal) : Journal := { j with books := j.books.map fun _ => [] }

/-- Writes a text to the book in use. -/
def write (j : Journal) (t : Text) : Journal :=
  match j.logger.book with
  | some n => { j with books := j.books.modify n (· ++ t) }
  | none => j

/-- Writes records, which have passed the level already. -/
def writeRecords (j : Journal) (records : List Record) : Journal :=
  j.write (records.flatMap Record.line)

/-- Logs a filled template, if the logger takes its level. -/
def log (j : Journal) (level : Level) (template : Text) (arguments : List Template.Argument) :
    Journal :=
  if j.level.takes level then j.writeRecords [⟨level, Template.fill template arguments⟩] else j

/-- Sets the level of the logger in use. -/
def setLevel (j : Journal) (level : Level) : Journal :=
  { j with logger := { j.logger with level } }

/-- Drops all messages until this is undone. -/
def discard (j : Journal) : Journal :=
  { j with logger := ⟨.off, none⟩, changes := .logger j.logger :: j.changes }

/-- Switches the logger in use off until this is undone. -/
def silence (j : Journal) : Journal :=
  { j.setLevel .off with changes := .level j.level :: j.changes }

/-- Opens a new book for all messages until this is undone. -/
def capture (j : Journal) (level : Level) : Journal :=
  { logger := ⟨level, some j.books.size⟩,
    changes := .logger j.logger :: j.changes,
    books := j.books.push [] }

/-- Undoes the latest change that is not undone yet. -/
def restore (j : Journal) : Journal :=
  match j.changes with
  | [] => j
  | .level l :: rest => { j.setLevel l with changes := rest }
  | .logger l :: rest => { j with logger := l, changes := rest }

end Journal

end Lisplet.Log
