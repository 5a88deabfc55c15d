import Lisplet.Command.Flag

/-!
# Invocations

A command line names a command, which may have flags in front of it and behind it. The first word
that is neither a flag nor the value of one is the name of the command.
-/

namespace Lisplet.Command

/-- The commands. -/
inductive Name where
  /-- Lists what is built in. -/
  | builtins
  /-- Evaluates one expression. -/
  | eval
  /-- Shows how a source is read. -/
  | read
  /-- Starts the interactive loop. -/
  | repl
  /-- Runs a source. -/
  | run
  /-- Shows the version. -/
  | version
  deriving DecidableEq, Repr

namespace Name

/-- The spelling of a command. -/
def spelling : Name → Text
  | .builtins => text "builtins"
  | .eval => text "eval"
  | .read => text "read"
  | .repl => text "repl"
  | .run => text "run"
  | .version => text "version"

/-- All commands. -/
def all : List Name := [.builtins, .eval, .read, .repl, .run, .version]

/-- The command with a given spelling. -/
def ofSpelling? (t : Text) : Option Name := all.find? fun n => n.spelling == t

/-- The flags of a command. -/
def flags : Name → List Flag
  | .read => .expr :: .help :: Flag.shared
  | .run => .quiet :: .help :: Flag.shared
  | _ => .help :: Flag.shared

/-- The error of a command that takes no arguments. -/
def surplus? (n : Name) (arguments : List Text) : Option UsageError :=
  arguments.head?.map fun a => .unknownCommand a (text "owl " ++ n.spelling)

/-- What is wrong with the number of arguments. -/
def argumentError? (n : Name) (arguments : List Text) : Option UsageError :=
  match n with
  | .builtins => n.surplus? arguments
  | .repl => n.surplus? arguments
  | .version => none
  | _ => if arguments.length = 1 then none else some (.wrongCount arguments.length)

end Name

/-- Whether a word is a flag whose value is the next word. A flag that is not known is taken for
one. -/
def takesNext (known : List Flag) (word : Text) : Bool :=
  if word.contains 61 then false
  else match word with
    | 45 :: 45 :: name => !((byName? known name).any fun f => !f.takesValue)
    | [45, letter] => !((byLetter? known letter).any fun f => !f.takesValue)
    | _ => false

/-- Whether a word is not empty and does not begin with a dash. -/
def isBare (word : Text) : Bool := !word.isEmpty && word.head? != some 45

/-- The words of a command line that are neither flags nor values of flags. -/
def bareWords (known : List Flag) : List Text → List Text
  | [] => []
  | [word] => if isBare word then [word] else []
  | word :: next :: rest =>
    if word = text "--" then []
    else if takesNext known word then if rest.isEmpty then [] else bareWords known rest
    else if isBare word then word :: bareWords known (next :: rest)
    else bareWords known (next :: rest)

/-- The words of a command line without the first bare word of a given spelling. -/
def withoutFirst (known : List Flag) (spelling : Text) : List Text → List Text
  | [] => []
  | [word] => if word = spelling then [] else [word]
  | word :: next :: rest =>
    if word = text "--" then word :: next :: rest
    else if takesNext known word then word :: next :: withoutFirst known spelling rest
    else if word = spelling then next :: rest
    else word :: withoutFirst known spelling (next :: rest)

/-- What a command line asks for. -/
structure Invocation where
  /-- The command, if one is named. -/
  command : Option Name
  /-- What the flags say. -/
  flags : Flags
  /-- The arguments. -/
  arguments : List Text

/-- Reads a command line. -/
def Invocation.parse (words : List Text) : Except UsageError Invocation :=
  match (bareWords Flag.shared words).head? with
  | none => do
    let p ← readCommandLine (.help :: Flag.shared) words
    pure ⟨none, p.flags, p.arguments⟩
  | some spelling =>
    match Name.ofSpelling? spelling with
    | none => .error (.unknownCommand spelling (text "owl"))
    | some command => do
      let p ← readCommandLine command.flags (withoutFirst Flag.shared spelling words)
      pure ⟨some command, p.flags, p.arguments⟩

end Lisplet.Command
