import BlueprintControl.CommandLine.Command
import BlueprintControl.Config.Environment

/-!
# Reading the command line

Switches that concern the whole program may stand before and after the name of the command. A
switch takes its value from the same word, behind an equals sign, or from the next word. Behind
two hyphens every word is an argument.

A value is looked at only when the next switch or argument comes, or at the end, so that of two
faults the one that is noticed first wins.

## Main definitions

* `Switch`: the switches.
* `LineReader`: what has been read at one level, before or after the name of the command.
* `LineReader.word`: reads a word.
* `Invocation.read`: reads a command line.
-/
namespace BlueprintControl

/-- A switch. -/
inductive Switch where
  | config
  | verbose
  | logJson
  | output
  | duration
  | burst
  | help
  | version
  deriving DecidableEq, Repr

namespace Switch

/-- The long form, without its hyphens. -/
def long : Switch → String
  | .config => "config"
  | .verbose => "verbose"
  | .logJson => "log-json"
  | .output => "output"
  | .duration => "duration-secs"
  | .burst => "burst"
  | .help => "help"
  | .version => "version"

/-- The letter, if there is one. -/
def letter : Switch → Option Char
  | .config => some 'c'
  | .verbose => some 'v'
  | .help => some 'h'
  | .version => some 'V'
  | _ => none

/-- Whether the switch takes a value. -/
def takesValue : Switch → Bool
  | .config | .output | .duration | .burst => true
  | _ => false

/-- The switches that may be used at a level. -/
def atLevel (level : Option CommandName) : List Switch :=
  [.config, .verbose, .logJson, .output, .help, .version]
    ++ if level = some .watch then [.duration, .burst] else []

end Switch

/-- What a value that has not been looked at belongs to. -/
inductive ValueOwner where
  | switch (s : Switch)
  | argument
  deriving DecidableEq, Repr

/-- What has been read at one level. -/
structure LineReader where
  level : Option CommandName
  config : Option String
  verbose : Bool
  logJson : Bool
  output : Option OutputFormat
  seconds : Option UInt64
  burst : Option UInt64
  arguments : List String
  /-- Values that have not been looked at yet. -/
  pending : Option (ValueOwner × List String)
  /-- The switch whose value is the next word. -/
  awaiting : Option Switch
  /-- Two hyphens have been read. -/
  literal : Bool
  /-- An argument has been read that allows no other. -/
  full : Bool
  deriving DecidableEq, Repr

namespace LineReader

/-- Nothing has been read. -/
def start (level : Option CommandName) : LineReader :=
  ⟨level, none, false, false, none, none, none, [], none, none, false, false⟩

/-- Gives a switch its only value. -/
def setOnce {α β : Type} (current : Option β) (value : Except UsageFault α) :
    Except UsageFault α :=
  if current.isSome then .error .repeated else value

/-- A path, which is not empty. -/
def path (v : String) : Except UsageFault String :=
  if v.isEmpty then .error .invalidValue else .ok v

/-- A number of 64 bits. -/
def number (v : String) : Except UsageFault UInt64 :=
  match readCount? v.toList with
  | some n => .ok n
  | none => .error .unreadableValue

/-- An output format. -/
def format : String → Except UsageFault OutputFormat
  | "text" => .ok .text
  | "json" => .ok .json
  | _ => .error .invalidValue

/-- Takes note of a switch without a value. -/
def noteFlag (r : LineReader) : Switch → Except UsageFault LineReader
  | .verbose => if r.verbose then .error .repeated else .ok { r with verbose := true }
  | .logJson => if r.logJson then .error .repeated else .ok { r with logJson := true }
  | .help => .error .help
  | .version => .error (.version r.level)
  | _ => .error .invalidValue

/-- Takes note of a switch with its values, of which there has to be one. -/
def noteSwitch (r : LineReader) (s : Switch) (values : List String) :
    Except UsageFault LineReader := do
  match values with
  | [] => throw .invalidValue
  | v :: _ => match s with
    | .config => return { r with config := some (← setOnce r.config (path v)) }
    | .output => return { r with output := some (← setOnce r.output (format v)) }
    | .duration => return { r with seconds := some (← setOnce r.seconds (number v)) }
    | .burst => return { r with burst := some (← setOnce r.burst (number v)) }
    | s => r.noteFlag s

/-- Takes note of arguments. An identifier may be empty, a path may not. -/
def noteArguments (r : LineReader) (values : List String) : Except UsageFault LineReader := do
  if r.level ≠ some .status then
    for v in values do
      let _ ← path v
  return { r with arguments := r.arguments ++ values }

/-- Looks at the values that have not been looked at. -/
def settle (r : LineReader) : Except UsageFault LineReader :=
  let settled := { r with pending := none }
  match r.pending with
  | none => .ok r
  | some (.switch s, values) => settled.noteSwitch s values
  | some (.argument, values) => settled.noteArguments values

/-- A switch that takes a value, with the value if it is in the same word. -/
def valued (r : LineReader) (s : Switch) (attached : Option String) :
    Except UsageFault LineReader := do
  let r ← r.settle
  match attached with
  | some v => return { ← r.noteSwitch s [v] with awaiting := none }
  | none => return { r with pending := some (.switch s, []), awaiting := some s }

/-- A switch that takes no value. -/
def flag (r : LineReader) (s : Switch) : Except UsageFault LineReader := do
  return { ← (← r.settle).noteFlag s with awaiting := none }

/-- A word behind two hyphens. -/
def longWord (r : LineReader) (body : List Char) : Except UsageFault LineReader :=
  let name := String.ofList (body.takeWhile (· != '='))
  let attached := match body.dropWhile (· != '=') with
    | [] => none
    | _ :: v => some (String.ofList v)
  match (Switch.atLevel r.level).find? fun s => s.long == name with
  | none => .error .unknownArgument
  | some s =>
    if s.takesValue then r.valued s attached
    else if attached.isSome then .error .unwantedValue
    else r.flag s

/-- The letters behind one hyphen. What follows the letter of a switch that takes a value is the
value. -/
def letters (r : LineReader) : List Char → Except UsageFault LineReader
  | [] => .ok r
  | c :: rest =>
    match (Switch.atLevel r.level).find? fun s => s.letter == some c with
    | none => .error .unknownArgument
    | some s =>
      if s.takesValue then
        r.valued s (match rest with
          | [] => none
          | '=' :: v => some (String.ofList v)
          | v => some (String.ofList v))
      else
        match r.flag s with
        | .ok r => r.letters rest
        | .error f => .error f

/-- An argument of a command. -/
def argument (r : LineReader) (word : String) : Except UsageFault LineReader :=
  match r.level with
  | none =>
    .error (if r.literal && ((CommandName.table.lookup word).isSome || word == "help") then
      .unknownArgument else .unknownCommand)
  | some .watch => match r.pending with
    | some (.argument, values) => .ok { r with pending := some (.argument, values ++ [word]) }
    | _ => do return { ← r.settle with pending := some (.argument, [word]), awaiting := none }
  | some _ =>
    if r.full then .error .unknownArgument
    else do
      return { ← r.settle with pending := some (.argument, [word]), awaiting := none, full := true }

/-- Reads a word. -/
def word (r : LineReader) (w : String) : Except UsageFault LineReader :=
  if r.literal then r.argument w
  else match w.toList with
    | ['-', '-'] => .ok { r with literal := true }
    | '-' :: '-' :: body => r.longWord body
    | '-' :: c :: rest => r.letters (c :: rest)
    | _ => match r.awaiting with
      | some s => .ok { r with pending := some (.switch s, [w]), awaiting := none }
      | none => r.argument w

/-- Looks at what is left at the end. The variable of the environment stands for a configuration
file that is not named. -/
def finish (r : LineReader) (fallback : Option String) : Except UsageFault LineReader := do
  let r ← r.settle
  if r.config.isNone then
    match fallback with
    | some v => let _ ← path v
    | none => pure ()
  return r

/-- Whether something has been given on purpose. -/
def isGiven (r : LineReader) : Bool :=
  r.config.isSome || r.verbose || r.logJson || r.output.isSome

end LineReader

/-- How long to watch unless another time is given, in seconds. -/
def standardWatch : UInt64 := 30

/-- The command that has been read. -/
def LineReader.command (r : LineReader) : Except UsageFault Command :=
  match r.level, r.arguments with
  | some .validate, file :: _ => .ok (.validate file)
  | some .evaluate, file :: _ => .ok (.evaluate file)
  | some .status, id :: _ => .ok (.status id)
  | some .watch, file :: files =>
    .ok (.watch (file :: files) (r.seconds.getD standardWatch) (r.burst.getD 0))
  | _, _ => .error .missingArgument

namespace Invocation

/-- The variable of the environment that names the configuration file. -/
def configVariable : String := "BLUEPRINT_CONFIG"

/-- Reads the words behind the name of a command. -/
def readCommand (r : LineReader) (fallback : Option String) :
    List String → Except UsageFault (LineReader × Command)
  | [] => do
    let r ← r.finish fallback
    return (r, ← r.command)
  | w :: rest => do readCommand (← r.word w) fallback rest

/-- What help is asked about: the program or one of its commands. -/
def readHelp : List String → UsageFault
  | [] => .help
  | [w] => if (CommandName.table.lookup w).isSome || w == "help" then .help else .unknownCommand
  | _ => .unknownCommand

/-- Puts both levels together. What stands behind the command wins. -/
def combine (before after : LineReader) (fallback : Option String) (c : Command) : Invocation :=
  ⟨(after.config <|> before.config) <|> fallback, after.verbose || before.verbose,
    after.logJson || before.logJson, (after.output <|> before.output).getD .text, c⟩

/-- Reads the words up to the name of the command, and then the rest. -/
def readWords (r : LineReader) (fallback : Option String) :
    List String → Except UsageFault Invocation
  | [] => do
    let r ← r.finish fallback
    throw (if r.isGiven || fallback.isSome then .missingCommand else .nothingGiven)
  | w :: rest =>
    let name := if r.literal || r.awaiting.isSome then none else CommandName.table.lookup w
    match name with
    | some c => do
      let (after, command) ← readCommand (.start (some c)) fallback rest
      let before ← r.finish fallback
      return combine before after fallback command
    | none =>
      if w == "help" && !r.literal && r.awaiting.isNone then .error (readHelp rest)
      else do readWords (← r.word w) fallback rest

/-- Reads a command line, given the variables of the environment. -/
def read (words : List String) (env : Environment) : Except UsageFault Invocation :=
  readWords (.start none) (env.lookup configVariable) words

end Invocation
end BlueprintControl
