import Lisplet.Text.Quoted

/-!
# Flags

A flag is written with its name behind two dashes, or with its letter behind one. Some flags switch
something on and others take a value. Letters of switches can be joined.
-/

namespace Lisplet.Command

/-- The flags of the command line. -/
inductive Flag where
  /-- The path of the configuration. -/
  | config
  /-- The log level. -/
  | logLevel
  /-- Takes the first arguments of some operations as they are written. -/
  | rawSeed
  /-- Breaks off when a special form is misused. -/
  | panicOnFatal
  /-- Writes the log for people. -/
  | pretty
  /-- Binds a name. -/
  | define
  /-- Does not show the last value. -/
  | quiet
  /-- Takes an argument as source text. -/
  | expr
  /-- Asks for help. -/
  | help
  deriving DecidableEq, Repr

namespace Flag

/-- The name of a flag. -/
def name : Flag → Text
  | .config => text "config"
  | .logLevel => text "log-level"
  | .rawSeed => text "raw-seed"
  | .panicOnFatal => text "panic-on-fatal"
  | .pretty => text "pretty"
  | .define => text "define"
  | .quiet => text "quiet"
  | .expr => text "expr"
  | .help => text "help"

/-- The letter of a flag. -/
def letter? : Flag → Option UInt8
  | .config => some 99
  | .define => some 68
  | .quiet => some 113
  | .expr => some 101
  | .help => some 104
  | _ => none

/-- Whether a flag takes a value. All others are switches. -/
def takesValue : Flag → Bool
  | .config => true
  | .logLevel => true
  | .define => true
  | _ => false

/-- A flag in messages. -/
def inWords (f : Flag) : Text :=
  match f.letter? with
  | some l => text "-" ++ [l] ++ text ", --" ++ f.name
  | none => text "--" ++ f.name

/-- The flags that every command has. -/
def shared : List Flag := [.config, .logLevel, .rawSeed, .panicOnFatal, .pretty, .define]

end Flag

/-- What is wrong with a command line. -/
inductive UsageError where
  /-- Two dashes with no name behind them. -/
  | badSyntax (word : Text)
  /-- A name that no flag has. -/
  | unknownName (name : Text)
  /-- Letters of which the first belongs to no flag. -/
  | unknownLetter (letter : UInt8) (others : Text)
  /-- A name of a flag without the value that it takes. -/
  | nameNeedsValue (word : Text)
  /-- A letter of a flag without the value that it takes. -/
  | letterNeedsValue (letter : UInt8)
  /-- A value that spells no state of a switch. -/
  | notASwitch (flag : Flag) (value : Text)
  /-- A word that names no command of a program. -/
  | unknownCommand (word program : Text)
  /-- A number of arguments other than one. -/
  | wrongCount (count : Nat)

namespace UsageError

/-- Letters in messages. -/
def letters (letter : UInt8) (others : Text) : Text :=
  (Rune.char (Char.ofNat letter.toNat)).quoted ++ text " in -" ++ letter :: others

/-- The message of an error. -/
def message : UsageError → Text
  | .badSyntax word => text "bad flag syntax: " ++ word
  | .unknownName name => text "unknown flag: --" ++ name
  | .unknownLetter letter others => text "unknown shorthand flag: " ++ letters letter others
  | .nameNeedsValue word => text "flag needs an argument: " ++ word
  | .letterNeedsValue letter => text "flag needs an argument: " ++ letters letter []
  | .notASwitch flag value =>
    text "invalid argument " ++ value.quoted ++ text " for " ++ flag.inWords.quoted
      ++ text " flag: strconv.ParseBool: parsing " ++ value.quoted ++ text ": invalid syntax"
  | .unknownCommand word program =>
    text "unknown command " ++ word.quoted ++ text " for " ++ program.quoted
  | .wrongCount count => text "accepts 1 arg(s), received " ++ Text.ofNat count

end UsageError

/-- What the flags of a command line say. -/
structure Flags where
  /-- The path of the configuration; none is given if it is empty. -/
  config : Text
  /-- The spelling of the log level; none is given if it is empty. -/
  logLevel : Text
  /-- Whether first arguments are taken as they are written. -/
  rawSeed : Bool
  /-- Whether misused forms break off the program. -/
  panicOnFatal : Bool
  /-- Whether the log is written for people. -/
  pretty : Bool
  /-- The definitions, in order. -/
  defines : List Text
  /-- Whether the last value is not shown. -/
  quiet : Bool
  /-- Whether an argument is source text. -/
  expr : Bool
  /-- Whether help is asked for. -/
  help : Bool

namespace Flags

/-- What no flags say. -/
def none : Flags := ⟨[], [], false, false, false, [], false, false, false⟩

/-- The spellings of a set switch. -/
def trueSpellings : List Text := ["1", "t", "T", "TRUE", "true", "True"].map text

/-- The spellings of a switch that is not set. -/
def falseSpellings : List Text := ["0", "f", "F", "FALSE", "false", "False"].map text

/-- The state of a switch that a text spells. -/
def switch (f : Flag) (t : Text) : Except UsageError Bool :=
  if trueSpellings.contains t then .ok true
  else if falseSpellings.contains t then .ok false
  else .error (.notASwitch f t)

/-- What the flags say after one more. -/
def set (flags : Flags) (f : Flag) (t : Text) : Except UsageError Flags :=
  match f with
  | .config => .ok { flags with config := t }
  | .logLevel => .ok { flags with logLevel := t }
  | .define => .ok { flags with defines := flags.defines ++ [t] }
  | .rawSeed => (switch f t).map fun b => { flags with rawSeed := b }
  | .panicOnFatal => (switch f t).map fun b => { flags with panicOnFatal := b }
  | .pretty => (switch f t).map fun b => { flags with pretty := b }
  | .quiet => (switch f t).map fun b => { flags with quiet := b }
  | .expr => (switch f t).map fun b => { flags with expr := b }
  | .help => (switch f t).map fun b => { flags with help := b }

end Flags

/-- The state of reading a command line. -/
structure Parsed where
  /-- What the flags so far say. -/
  flags : Flags
  /-- The arguments so far that are no flags. -/
  arguments : List Text

/-- The flag with a given name. -/
def byName? (known : List Flag) (name : Text) : Option Flag := known.find? fun f => f.name == name

/-- The flag with a given letter. -/
def byLetter? (known : List Flag) (letter : UInt8) : Option Flag :=
  known.find? fun f => f.letter? == some letter

/-- Reads a flag that is written with its name. The result is what the flags say and the words that
are left. -/
def readNamed (known : List Flag) (flags : Flags) (word : Text) (rest : List Text) :
    Except UsageError (Flags × List Text) := do
  let body : Text := word.drop 2
  if body.isEmpty || body.head? == some 45 || body.head? == some 61 then
    .error (.badSyntax word)
  else
    let (name, value) := match body.cut? 61 with
      | some (name, value) => (name, some value)
      | none => (body, none)
    match byName? known name, value with
    | none, _ => .error (.unknownName name)
    | some f, some value => do pure (← flags.set f value, rest)
    | some f, none =>
      if f.takesValue then
        match rest with
        | value :: rest => do pure (← flags.set f value, rest)
        | [] => .error (.nameNeedsValue word)
      else do pure (← flags.set f (text "true"), rest)

/-- The beginning of letters that are passed over. -/
def passedOver : Text := text "test."

/-- Reads flags that are written with their letters. -/
def readLetters (known : List Flag) (flags : Flags) (rest : List Text) :
    (letters : Text) → Except UsageError (Flags × List Text)
  | [] => .ok (flags, rest)
  | letter :: others =>
    if passedOver.isPrefixOf (letter :: others) then .ok (flags, rest)
    else match byLetter? known letter with
    | none => .error (.unknownLetter letter others)
    | some f =>
      if others.head? == some 61 && 1 < others.length then do
        pure (← flags.set f (others.drop 1), rest)
      else if !f.takesValue then
        match flags.set f (text "true") with
        | .error e => .error e
        | .ok flags => readLetters known flags rest others
      else if !others.isEmpty then do pure (← flags.set f others, rest)
      else match rest with
        | value :: rest => do pure (← flags.set f value, rest)
        | [] => .error (.letterNeedsValue letter)

/-- Reads the words of a command line. Two dashes alone end the flags, and one dash alone is no
flag. `fuel` bounds the number of words. -/
def readWords (known : List Flag) : (fuel : Nat) → Parsed → List Text → Except UsageError Parsed
  | 0, p, _ => .ok p
  | _ + 1, p, [] => .ok p
  | fuel + 1, p, word :: rest =>
    if word = text "--" then .ok { p with arguments := p.arguments ++ rest }
    else if word = text "-" || word.head? != some 45 then
      readWords known fuel { p with arguments := p.arguments ++ [word] } rest
    else
      let result :=
        if (word.drop 1).head? == some 45 then readNamed known p.flags word rest
        else readLetters known p.flags rest (word.drop 1)
      match result with
      | .error e => .error e
      | .ok (flags, rest) => readWords known fuel { p with flags } rest

/-- Reads a command line with the given flags. -/
def readCommandLine (known : List Flag) (words : List Text) : Except UsageError Parsed :=
  readWords known words.length ⟨.none, []⟩ words

end Lisplet.Command
