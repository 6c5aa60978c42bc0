import BlueprintControl.Config.Environment
import BlueprintControl.Dotenv.Entry
import BlueprintControl.Files.Look
import BlueprintControl.Files.Path

/-!
# Where settings come from

The file with the settings is the nearest one at or above a folder. Variables can be set in a
dotenv file; a variable that is set already stays as it is.

Files are looked at through a function, so that the same search serves any tree of files.

## Main definitions

* `Settings.find`: searches for the file.
* `Settings.ofLook`: the settings from what is found at a path.
* `Environment.extend`: the variables with those of a dotenv file.
-/
namespace BlueprintControl

namespace Settings

/-- The names that the file may have, the preferred one first. -/
def fileNames : List String := ["blueprint-operator.yaml", "blueprint-operator.yml"]

/-- Where the file may be, nearest first. -/
def candidates (start : String) : List String :=
  (Path.ancestors start).flatMap fun folder => fileNames.map (Path.join folder)

/-- The first path at which there is anything. -/
def firstExisting {m : Type → Type} [Monad m] (look : String → m Look) :
    List String → m (Option String)
  | [] => return none
  | path :: rest => do
    if (← look path).exists? then return some path else firstExisting look rest

/-- Searches for the file at a folder and above. -/
def find {m : Type → Type} [Monad m] (look : String → m Look) (start : String) :
    m (Except ConfigFailure String) := do
  match ← firstExisting look (candidates start) with
  | some path => return .ok path
  | none => return .error (.fileNotFound (Path.join start "blueprint-operator.yaml"))

/-- The settings from what is found at a path. -/
def ofLook (path : String) (l : Look) : Except ConfigFailure Settings :=
  if l.exists? then do
    let text ← l.readText.mapError fun why => .parse ("Failed to read file: " ++ why) (some path)
    parse text (some path)
  else .error (.fileNotFound path)

end Settings

namespace Dotenv

/-- The name of a dotenv file. -/
def fileName : String := ".env"

/-- Where a dotenv file is, given the folder. -/
def path (folder : Option String) : String :=
  (folder.map fun f => Path.join f fileName).getD fileName

/-- What is wrong with a file. -/
def Fault.message : Fault → String
  | .line text index =>
    "Error parsing line: '" ++ String.ofList text ++ "', error at line index: " ++ toString index
  | .notText => "stream did not contain valid UTF-8"

/-- A file that cannot be loaded. -/
def unloadable (path why : String) : ConfigFailure :=
  .parse ("Failed to load .env file: " ++ why) (some path)

/-- The entries of what is found at a path. There need not be a file. -/
def ofLook (path : String) (l : Look) : Except ConfigFailure (List Entry) :=
  match l.read with
  | .ok content => match read content with
    | (entries, none) => .ok entries
    | (_, some fault) => .error (unloadable path fault.message)
  | .error why => if l.exists? then .error (unloadable path why.message) else .ok []

/-- The names of the variables on which entries depend. -/
def mentioned (entries : List Entry) : List String :=
  entries.flatMap fun e => e.key :: e.value.filterMap fun
    | .value name => some name
    | .char _ => none

end Dotenv

namespace Environment

/-- The text of a part of a value. A variable that is not set is empty. -/
def expand (env : Environment) : Dotenv.Piece → String
  | .char c => String.singleton c
  | .value name => (env.lookup name).getD ""

/-- The variables with those of a dotenv file. -/
def extend (env : Environment) : List Dotenv.Entry → Environment
  | [] => env
  | e :: rest =>
    if (env.lookup e.key).isSome then extend env rest
    else extend (env ++ [(e.key, String.join (e.value.map (expand env)))]) rest

end Environment
end BlueprintControl
