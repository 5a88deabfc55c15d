import Lisplet.Colour
import Lisplet.Printer
import Lisplet.Session

/-!
# The interactive loop

The loop asks for lines, collects them until they make up readable text, and then runs the text or
carries out a command. A text that begins with a colon is a command.
-/

namespace Lisplet

/-- What comes from the keyboard. -/
inductive Keyboard where
  /-- A line. -/
  | line (t : Text)
  /-- The line was given up. -/
  | aborted
  /-- The keyboard failed. -/
  | failed
  /-- There are no more lines. -/
  | ended

/-- What the loop shows and keeps. -/
inductive ReplEvent where
  /-- A prompt for the next line. -/
  | prompt (t : Text)
  /-- A text that is kept in the history. -/
  | history (t : Text)
  /-- Output. -/
  | out (t : Text)

/-- How the loop ends. -/
inductive ReplEnd where
  /-- As it was told to. -/
  | finished
  /-- Broken off by a failure. -/
  | aborted (failure : Failure)

/-- The state of the loop. -/
structure Repl where
  /-- The session in which texts are run. -/
  session : Session
  /-- Whether colours are on. -/
  colours : Bool
  /-- The lines of an unfinished text. -/
  pending : Text

/-- What the loop does with one input. -/
structure Reply where
  /-- What it shows and keeps. -/
  events : List ReplEvent
  /-- The state afterwards. -/
  repl : Repl
  /-- How the loop ends, if it does. -/
  ending : Option ReplEnd

namespace Repl

/-- The start of the loop. -/
def start (session : Session) (colours : Bool) : Repl := ⟨session, colours, []⟩

/-- The prompt for the next line, which tells whether a text is unfinished. -/
def prompt (r : Repl) : Text := text (if r.pending.isEmpty then "owl> " else "...> ")

/-- The overview of the commands. -/
def help : Text := text "
REPL commands:
  :env     List the bindings in the root environment
  :help    Show this help
  :quit    Exit the REPL

Unfinished expressions continue on the next line.  Ctrl+C discards the
current input, Ctrl+D exits.
"

/-- The bindings of the root environment, a line each. -/
def listing (r : Repl) : Text :=
  let heap := r.session.world.heap
  (heap.keys r.session.root).flatMap fun name =>
    name ++ text " = " ++ (heap.get r.session.root name).source ++ [Text.newline]

/-- Output, if there is any. -/
def output (t : Text) : List ReplEvent := if t.isEmpty then [] else [.out t]

/-- Carries out a command. -/
def command (r : Repl) (name : Text) : Reply :=
  if [text ":quit", text ":q", text ":exit"].contains name then ⟨[], r, some .finished⟩
  else if name = text ":help" then ⟨output help, r, none⟩
  else if name = text ":env" then ⟨output r.listing, r, none⟩
  else
    ⟨output (Colour.red.paint r.colours
      (text "unknown command " ++ name ++ text ", try :help\n")), r, none⟩

/-- A line in a colour. -/
def colouredLine (r : Repl) (c : Colour) (t : Text) : List ReplEvent :=
  output (c.paint r.colours t ++ [Text.newline])

/-- Runs a text and shows its value or its failure. -/
def run (r : Repl) (code : Text) : Reply :=
  match r.session.run code with
  | (.value v, session) => ⟨r.colouredLine .green v.prettySource, { r with session }, none⟩
  | (.failed result, session) =>
    ⟨r.colouredLine .red result.failure.message, { r with session }, none⟩
  | (.aborted f, session) => ⟨[], { r with session }, some (.aborted f)⟩

/-- Whether a text begins with a colon, white space aside. -/
def isCommand (t : Text) : Bool := t.trim.head? == some 58

/-- Takes a finished text: skips it if it is blank, else keeps it in the history and carries it
out. -/
def take (r : Repl) (finished : Text) : Reply :=
  let code := finished.trim
  if code.isEmpty then ⟨[], r, none⟩
  else
    let reply := if isCommand code then r.command code.toSmall else r.run code
    { reply with events := .history code :: reply.events }

/-- Whether a text is unfinished. -/
def isUnfinished (t : Text) : Bool := (parseForms t).2.any ReadError.incomplete

/-- The unfinished text with a further line. -/
def joined (r : Repl) (line : Text) : Text :=
  if r.pending.isEmpty then line else r.pending ++ Text.newline :: line

/-- What the loop does with an input. -/
def respond (r : Repl) : Keyboard → Reply
  | .ended => ⟨[.out [Text.newline]], r, some .finished⟩
  | .failed => ⟨[.out [Text.newline]], r, some .finished⟩
  | .aborted => ⟨[], { r with pending := [] }, none⟩
  | .line t =>
    let source := r.joined t
    if !isCommand source && isUnfinished source then ⟨[], { r with pending := source }, none⟩
    else { r with pending := [] }.take source

/-- The course of a loop. -/
structure Course where
  /-- All that is shown and kept, in order. -/
  events : List ReplEvent
  /-- The inputs that were not asked for. -/
  left : List Keyboard
  /-- The state at the end. -/
  repl : Repl
  /-- How the loop ended. -/
  ending : ReplEnd

/-- Runs the loop on the given inputs, behind which there are no more lines. -/
def course (r : Repl) : List Keyboard → Course
  | [] =>
    let reply := r.respond .ended
    ⟨.prompt r.prompt :: reply.events, [], reply.repl, .finished⟩
  | input :: rest =>
    let reply := r.respond input
    let events := .prompt r.prompt :: reply.events
    match reply.ending with
    | some ending => ⟨events, rest, reply.repl, ending⟩
    | none =>
      let c := reply.repl.course rest
      { c with events := events ++ c.events }

end Repl

end Lisplet
