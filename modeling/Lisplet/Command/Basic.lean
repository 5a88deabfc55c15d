import Lisplet.Command.Invocation
import Lisplet.Config.Load
import Lisplet.Log.Pretty
import Lisplet.Printer

/-!
# Commands

A command works on what surrounds it: files, the standard input, variables and facts of the build.
What it leaves behind is its output, its log and how it ended.
-/

namespace Lisplet.Command

/-- Facts about a build. -/
structure Build where
  /-- The version. -/
  version : Text
  /-- The commit it was made from. -/
  commit : Text
  /-- The date it was made. -/
  date : Text

/-- The facts where none are known. -/
def Build.unknown : Build := ⟨text "dev", text "none", text "unknown"⟩

/-- What surrounds a command. -/
structure Surroundings where
  /-- The contents of the file at a path, or why there are none. -/
  file : Text → Except Text Text
  /-- The standard input. -/
  input : Text
  /-- The value of a variable; one that is not set is empty. -/
  setting : Text → Text
  /-- Whether colours are on. -/
  colours : Bool
  /-- Facts about the build. -/
  build : Build

/-- How a command ended. -/
inductive Ending where
  /-- It did its work. -/
  | done
  /-- It failed. -/
  | failed (failure : Failure)
  /-- It was broken off. -/
  | aborted (failure : Failure)

/-- What a command leaves behind. -/
structure Report where
  /-- Its output. -/
  output : Text
  /-- The messages it logged. -/
  log : List Log.Record
  /-- The level of the log afterwards. -/
  level : Log.Level
  /-- How it ended. -/
  ending : Ending

/-- The variable that names the log level. -/
def levelVariable : Text := text "OWL_LOG_LEVEL"

/-- The level of the log: from the flag, else from the variable, else for information. -/
def startLevel (flags : Flags) (s : Surroundings) : Except Unknown Log.Level :=
  let spelling := if flags.logLevel.isEmpty then s.setting levelVariable else flags.logLevel
  if spelling.isEmpty then .ok .info else Log.Level.parse spelling

/-- Whether the log is written for people. -/
def isPretty (flags : Flags) (s : Surroundings) : Bool :=
  flags.pretty || s.setting (text "OWL_ENV") == text "dev"

/-- The path of the configuration, which is empty if there is none. -/
def configPath (flags : Flags) (setting : Text → Text) : Text :=
  if flags.config.isEmpty then setting (text "OWL_CONFIG") else flags.config

/-- The settings of the configuration, if there is one. -/
def settings (flags : Flags) (s : Surroundings) : Except Failure Config.Settings :=
  let path := configPath flags s.setting
  if path.isEmpty then .ok .empty
  else match s.file path with
    | .error message => .error (.within (text "reading config " ++ path) (.plain message))
    | .ok contents =>
      match Config.Settings.parse contents with
      | .error f => .error (.within (text "config " ++ path) f)
      | .ok settings => .ok settings

/-- The level of the log once the settings are known. Flag and variable win over the settings. -/
def settledLevel (flags : Flags) (s : Surroundings) (settings : Config.Settings)
    (level : Log.Level) : Except Unknown Log.Level :=
  if flags.logLevel.isEmpty && (s.setting levelVariable).isEmpty then
    settings.level?.map fun chosen => chosen.getD level
  else .ok level

/-- The policies that the flags leave of others. -/
def overridden (flags : Flags) (p : Policies) : Policies :=
  { p with
    seed := if flags.rawSeed then .raw else p.seed
    fatal := if flags.panicOnFatal then .abort else p.fatal }

/-- The failure of a text that is no definition. -/
def noDefinition (t : Text) : Failure :=
  .plain (text "invalid definition " ++ t.quoted ++ text ", expected name=literal")

/-- Binds the name of a definition to the first form of its literal, which is not evaluated. -/
def definition (session : Session) (t : Text) : Except Failure Session :=
  match t.cut? 61 with
  | none => .error (noDefinition t)
  | some (name, literal) =>
    let name := name.trim
    if name.isEmpty then .error (noDefinition t)
    else match Lisplet.parse literal with
      | .error e => .error (.within (text "definition " ++ name) (.unreadable e))
      | .ok v => .ok (session.define name v)

/-- Binds all definitions, in order. -/
def definitions (session : Session) : List Text → Except Failure Session
  | [] => .ok session
  | t :: rest =>
    match definition session t with
    | .error f => .error f
    | .ok session => definitions session rest

/-- A session under some settings, the flags and the definitions. -/
def configured (flags : Flags) (settings : Config.Settings) (level : Log.Level) :
    Except Failure Session :=
  match settings.session level with
  | .error f => .error f
  | .ok session =>
    definitions { session with policies := overridden flags session.policies } flags.defines

/-- The session of a command, with the level of the log afterwards. -/
def newSession (flags : Flags) (s : Surroundings) (level : Log.Level) :
    Except Failure Session × Log.Level :=
  match settings flags s with
  | .error f => (.error f, level)
  | .ok settings =>
    match settledLevel flags s settings level with
    | .error e => (.error (.unknown e), level)
    | .ok level => (configured flags settings level, level)

/-- The report of a failure. -/
def failure (f : Failure) (level : Log.Level) : Report := ⟨[], [], level, .failed f⟩

/-- A value on a line of its own. -/
def valueLine (v : Value) : Text := v.prettySource ++ [Text.newline]

/-- The report of a program that has run. -/
def finished (o : Outcome Value) (session : Session) (level : Log.Level) (quiet : Bool) : Report :=
  let log := session.world.log
  match o with
  | .value v => ⟨if quiet then [] else valueLine v, log, level, .done⟩
  | .failed result => ⟨[], log, level, .failed result.failure⟩
  | .aborted f => ⟨[], log, level, .aborted f⟩

/-- The contents of a source: the standard input for a dash, else a file. -/
def source (s : Surroundings) (path : Text) : Except Failure Text :=
  if path = text "-" then .ok s.input
  else match s.file path with
    | .ok contents => .ok contents
    | .error message => .error (.within (text "reading " ++ path) (.plain message))

/-- Lists names, each indented on a line of its own. -/
def listing (names : List Text) : Text :=
  Text.join [Text.newline] (names.map fun n => text "  " ++ n) ++ [Text.newline]

/-- The special forms, in ascending order of their names. -/
def specialForms : List Text :=
  (Dictionary.ofList (SpecialForm.all.map fun form => (form.name, ()))).keys

/-- Lists the special forms and the operations. -/
def builtins (flags : Flags) (s : Surroundings) (level : Log.Level) : Report :=
  match newSession flags s level with
  | (.error f, level) => failure f level
  | (.ok session, level) =>
    ⟨text "Special forms:\n" ++ listing specialForms ++ text "Intrinsics:\n"
      ++ listing session.registry.keys, [], level, .done⟩

/-- Evaluates one expression and shows its value. -/
def eval (flags : Flags) (s : Surroundings) (level : Log.Level) (code : Text) : Report :=
  match newSession flags s level with
  | (.error f, level) => failure f level
  | (.ok session, level) =>
    let (o, session) := session.eval code
    finished o session level false

/-- Runs a source and shows the last value. -/
def run (flags : Flags) (s : Surroundings) (level : Log.Level) (path : Text) : Report :=
  match source s path with
  | .error f => failure f level
  | .ok code =>
    match newSession flags s level with
    | (.error f, level) => failure f level
    | (.ok session, level) =>
      let (o, session) := session.run code
      finished o session level flags.quiet

/-- Shows the expressions of a source, those in front of an error included. -/
def read (flags : Flags) (s : Surroundings) (level : Log.Level) (argument : Text) : Report :=
  let (name, code) :=
    if flags.expr then (text "<expr>", .ok argument) else (argument, source s argument)
  match code with
  | .error f => failure f level
  | .ok code =>
    let (forms, error) := parseForms code
    ⟨forms.flatMap valueLine, [], level,
      match error with
      | some e => .failed (.within name (.unreadable e))
      | none => .done⟩

/-- The paths of the files that an invocation may look at. -/
def wantedFiles (i : Invocation) (setting : Text → Text) : List Text :=
  (configPath i.flags setting :: i.arguments).filter fun path => !path.isEmpty

/-- The greeting of the interactive loop. -/
def greeting (b : Build) : Text :=
  text "owl " ++ b.version ++ text "\nType :help for help, :quit to exit.\n"

/-- Shows the version and what else is known of the build. -/
def version (b : Build) : Text :=
  text "owl " ++ b.version ++ text "\n"
    ++ (if b.commit = text "none" then [] else text "Git commit: " ++ b.commit ++ text "\n")
    ++ (if b.date = text "unknown" then [] else text "Build date: " ++ b.date ++ text "\n")

/-- Carries out an invocation with a log at the given level. The interactive loop is only prepared,
as it needs a keyboard. -/
def carryOut (i : Invocation) (s : Surroundings) (level : Log.Level) : Report :=
  let argument := i.arguments.head?.getD []
  match i.command with
  | none => ⟨[], [], level, .done⟩
  | some .builtins => builtins i.flags s level
  | some .eval => eval i.flags s level argument
  | some .read => read i.flags s level argument
  | some .run => run i.flags s level argument
  | some .version => ⟨version s.build, [], level, .done⟩
  | some .repl =>
    match newSession i.flags s level with
    | (.error f, level) => failure f level
    | (.ok session, level) => ⟨greeting s.build, session.world.log, level, .done⟩

/-- What is seen of a command. -/
structure Result where
  /-- Its output. -/
  output : Text
  /-- Its log, a line per message. -/
  errors : Text
  /-- The level of the log afterwards. -/
  level : Log.Level
  /-- How it ended. -/
  ending : Ending

/-- A record as a line, for people or not. -/
def logLine (pretty colours : Bool) (r : Log.Record) : Text :=
  if pretty then (Log.Handler.new (some .debug) colours).line r.level.severity r.message []
  else r.line

/-- What is seen of a command that left a report. -/
def Report.result (r : Report) (pretty colours : Bool) : Result :=
  ⟨r.output, r.log.flatMap (logLine pretty colours), r.level, r.ending⟩

/-- What is seen of a command line that leads to no command. -/
def refused (f : Failure) : Result := ⟨[], [], .info, .failed f⟩

/-- Carries out a command line. The flags are looked at first, then the number of arguments, then
the log level. -/
def perform (words : List Text) (s : Surroundings) : Result :=
  match Invocation.parse words with
  | .error e => refused (.plain e.message)
  | .ok i =>
    match if i.flags.help then none else i.command with
    | none => ⟨[], [], .info, .done⟩
    | some command =>
      match command.argumentError? i.arguments with
      | some e => refused (.plain e.message)
      | none =>
        match startLevel i.flags s with
        | .error e => refused (.unknown e)
        | .ok level => (carryOut i s level).result (isPretty i.flags s) s.colours

end Lisplet.Command
