import BlueprintControl.Output.Printer

/-!
# Commands

What the program can be asked to do, and how it is asked.

## Main definitions

* `Command`, `Invocation`: a command with its arguments, and the whole request.
* `UsageFault`: why a command line is no request.
* `UsageFault.exitCode`, `UsageFault.text`: how the program ends then, and what it prints.
-/
namespace BlueprintControl

/-- A command with its arguments. -/
inductive Command where
  /-- Check the actions that a document asks for. -/
  | validate (file : String)
  /-- Run one pass for a document without applying anything. -/
  | evaluate (file : String)
  /-- Show the stored status of a blueprint. -/
  | status (id : String)
  /-- Run the controller over documents for some time. -/
  | watch (files : List String) (seconds burst : UInt64)
  deriving DecidableEq, Repr

/-- A request to the program. -/
structure Invocation where
  /-- The configuration file, if one is named. -/
  config : Option String
  verbose : Bool
  logJson : Bool
  output : OutputFormat
  command : Command
  deriving DecidableEq, Repr

/-- The names of the commands. -/
inductive CommandName where
  | validate
  | evaluate
  | status
  | watch
  deriving DecidableEq, Repr

/-- The text of a name. -/
def CommandName.text : CommandName → String
  | .validate => "validate"
  | .evaluate => "evaluate"
  | .status => "status"
  | .watch => "watch"

/-- All names with their texts. -/
def CommandName.table : List (String × CommandName) :=
  [.validate, .evaluate, .status, .watch].map fun c => (c.text, c)

/-- The name of the program. -/
def programName : String := "blueprint-ctl"

/-- The version of the program. -/
def programVersion : String := "0.1.0"

/-- Why a command line is no request. -/
inductive UsageFault where
  /-- Help is asked for. -/
  | help
  /-- The version is asked for, of the program or of a command. -/
  | version (command : Option CommandName)
  /-- Nothing is given at all. -/
  | nothingGiven
  /-- There are switches but no command. -/
  | missingCommand
  | missingArgument
  | unknownArgument
  | unknownCommand
  /-- A value is missing, or none of those that are possible. -/
  | invalidValue
  /-- A value is no number. -/
  | unreadableValue
  /-- A switch is given twice. -/
  | repeated
  /-- A value is given to a switch that takes none. -/
  | unwantedValue
  deriving DecidableEq, Repr

namespace UsageFault

/-- The exit code: only what was asked for is no failure. -/
def exitCode : UsageFault → Nat
  | .help | .version _ => 0
  | _ => 2

/-- How the program is used. -/
def usage : String :=
  "Usage: " ++ programName ++ " [OPTIONS] <COMMAND>\n\n"
    ++ "Commands:\n"
    ++ "  validate <FILE>    Check the actions of a document\n"
    ++ "  evaluate <FILE>    Run one pass for a document without applying anything\n"
    ++ "  status <ID>        Show the stored status of a blueprint\n"
    ++ "  watch <FILES>...   Run the controller over documents for some time\n"
    ++ "                     [--duration-secs <SECONDS>] [--burst <NUMBER>]\n\n"
    ++ "Options:\n"
    ++ "  -c, --config <FILE>      The configuration file\n"
    ++ "  -v, --verbose            Say more\n"
    ++ "      --log-json           Write log lines as JSON\n"
    ++ "      --output <FORMAT>    text or json\n"
    ++ "  -h, --help               Show this text\n"
    ++ "  -V, --version            Show the version\n"

/-- What is wrong with a command line. -/
def message : UsageFault → String
  | .help | .version _ | .nothingGiven => ""
  | .missingCommand => "a command is required"
  | .missingArgument => "an argument is missing"
  | .unknownArgument => "an argument is not expected"
  | .unknownCommand => "there is no such command"
  | .invalidValue => "a value is missing or not possible"
  | .unreadableValue => "a value is no number"
  | .repeated => "a switch is given twice"
  | .unwantedValue => "a switch takes no value"

/-- The line that is printed for a version. -/
def versionLine (command : Option CommandName) : String :=
  programName ++ (match command with
    | some c => "-" ++ c.text
    | none => "") ++ " " ++ programVersion ++ "\n"

/-- The text that is printed. -/
def text : UsageFault → String
  | .version command => versionLine command
  | .help | .nothingGiven => usage
  | f => "error: " ++ f.message ++ "\n\n" ++ usage

end UsageFault
end BlueprintControl
