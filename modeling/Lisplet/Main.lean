import Lisplet.Command.Basic
import Lisplet.Repl

/-!
# The command line

The program reads the files that its command line names, carries the command line out, and writes
what comes of it.
-/

namespace Lisplet.Main

/-- The text of a string. -/
def stringOf (t : Text) : String := (String.fromUTF8? ⟨t.toArray⟩).getD ""

/-- Writes a text. -/
def put (stream : IO.FS.Stream) (t : Text) : IO Unit := do
  stream.write ⟨t.toArray⟩
  stream.flush

/-- The reason of a failure to read a file. -/
def reasonOf : IO.Error → Text
  | .noFileOrDirectory _ _ _ => text "no such file or directory"
  | .permissionDenied _ _ _ => text "permission denied"
  | e => text e.toString

/-- The contents of a file, or why there are none. -/
def fileContents (path : Text) : IO (Except Text Text) := do
  try
    let bytes ← IO.FS.readBinFile (stringOf path)
    return .ok bytes.data.toList
  catch e => return .error (text "open " ++ path ++ text ": " ++ reasonOf e)

/-- The values of variables. -/
def valuesOf (names : List String) : IO (List (Text × Text)) :=
  names.mapM fun name => do
    return (text name, text ((← IO.getEnv name).getD ""))

/-- Reads a stream to its end. -/
partial def readToEnd (stream : IO.FS.Stream) (read : Text) : IO Text := do
  let bytes ← stream.read 65536
  if bytes.isEmpty then return read else readToEnd stream (read ++ bytes.data.toList)

/-- Runs the interactive loop on the standard input. -/
partial def interact (r : Repl) : IO Unit := do
  let out ← IO.getStdout
  put out r.prompt
  let line ← (← IO.getStdin).getLine
  let reply := r.respond
    (if line.isEmpty then .ended else .line (text (line.dropEndWhile (· == '\n')).toString))
  reply.events.forM fun event => match event with
    | .out t => put out t
    | _ => pure ()
  match reply.ending with
  | none => interact reply.repl
  | some (.aborted f) => put (← IO.getStderr) (f.message ++ [Text.newline])
  | some .finished => pure ()

/-- The surroundings of a command line. -/
def surroundings (words : List Text) : IO Command.Surroundings := do
  let known ← valuesOf ["OWL_CONFIG", "OWL_ENV", "OWL_LOG_LEVEL"]
  let setting (name : Text) : Text := (known.lookup name).getD []
  let arguments := match Command.Invocation.parse words with
    | .ok i => i.arguments
    | .error _ => []
  let wanted := match Command.Invocation.parse words with
    | .ok i => Command.wantedFiles i setting
    | .error _ => []
  let files ← wanted.mapM fun path => do return (path, ← fileContents path)
  let input ← if arguments.contains (text "-") then readToEnd (← IO.getStdin) [] else pure []
  return ⟨fun path => (files.lookup path).getD (.error path), input, setting, false, .unknown⟩

/-- Whether a command line starts the interactive loop, and then its session. -/
def interactive? (words : List Text) (s : Command.Surroundings) : Option Session :=
  match Command.Invocation.parse words with
  | .ok ⟨some .repl, flags, []⟩ =>
    match Command.startLevel flags s with
    | .ok level => (Command.newSession flags s level).1.toOption
    | .error _ => none
  | _ => none

end Lisplet.Main

/-- Carries out the command line. -/
def main (args : List String) : IO UInt32 := do
  let words := args.map Lisplet.text
  let s ← Lisplet.Main.surroundings words
  let result := Lisplet.Command.perform words s
  Lisplet.Main.put (← IO.getStdout) result.output
  Lisplet.Main.put (← IO.getStderr) result.errors
  match result.ending with
  | .done =>
    if let some session := Lisplet.Main.interactive? words s then
      Lisplet.Main.interact (.start session false)
    return 0
  | .failed f =>
    Lisplet.Main.put (← IO.getStderr) (f.message ++ [Lisplet.Text.newline])
    return 1
  | .aborted f =>
    Lisplet.Main.put (← IO.getStderr) (Lisplet.text "panic: " ++ f.message ++ [Lisplet.Text.newline])
    return 2
