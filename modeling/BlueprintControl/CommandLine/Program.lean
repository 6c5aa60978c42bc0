import BlueprintControl.CommandLine.Host
import BlueprintControl.CommandLine.Reader
import BlueprintControl.Config.Check
import BlueprintControl.Controller.TimedRun
import BlueprintControl.Reconcile.Evaluation

/-!
# The program

The program finds its settings, carries out a command and prints what came of it.

## Main definitions

* `Preparation`, `Invocation.prepare`: everything that is settled before a command.
* `Command.perform`: carries out a command.
* `Ending`, `Invocation.perform`: what the program leaves behind.
* `Program.run`: the program, given the words of its command line.
-/
namespace BlueprintControl

/-- What is settled before a command. -/
structure Preparation where
  settings : Settings
  /-- The variables, with those of the dotenv file. -/
  environment : Environment
  warnings : List String

/-- What a command comes to. -/
structure Achievement where
  success : Bool
  text : String

/-- What the program leaves behind. -/
structure Ending where
  success : Bool
  output : String
  /-- What is said beside the output. -/
  remarks : List String

/-- Whether colours are wanted: by force, unless there is a word against them, or because the
output goes to a terminal. -/
def Environment.wantsColor (env : Environment) (terminal : Bool) : Bool :=
  let set? (name : String) : Option Bool := (env.lookup name).map (· != "0")
  if set? "CLICOLOR_FORCE" = some true then true
  else if (set? "NO_COLOR").isSome then false
  else (set? "CLICOLOR").getD true && terminal

/-- The variables that the program knows. -/
def Environment.known : List String :=
  [namespaceVariable, statePathVariable, windowVariable, Invocation.configVariable,
    "CLICOLOR_FORCE", "NO_COLOR", "CLICOLOR"]

variable {m : Type → Type} [Monad m] (h : Host m)

/-- The entries of the dotenv file in a folder. -/
def Host.dotenv (folder : Option String) : ExceptT Failure m (List Dotenv.Entry) := do
  let path := Dotenv.path folder
  ExceptT.mk (return (Dotenv.ofLook path (← h.look path)).mapError Failure.config)

/-- The settings in a file, or the standard settings. -/
def Host.settings : Option String → ExceptT Failure m Settings
  | some file => ExceptT.mk (return (Settings.ofLook file (← h.look file)).mapError Failure.config)
  | none => return .standard

/-- The document in a file. -/
def Host.document (file : String) : ExceptT Failure m BlueprintDocument :=
  ExceptT.mk (return BlueprintDocument.ofLook file (← h.look file))

/-- Works on the store. -/
def Host.work {α : Type} (s : Settings) (t : Task Stored α) : ExceptT Failure m α :=
  ExceptT.mk (h.onStore s.statePath t)

/-- The file with the settings: the one that is named, or the nearest one. -/
def Invocation.settingsFile (i : Invocation) : m (Option String) :=
  match i.config with
  | some file => return some file
  | none => do return (← Settings.find h.look (← h.folder)).toOption

/-- Settles everything that comes before a command. -/
def Invocation.prepare (i : Invocation) : ExceptT Failure m Preparation := do
  let file ← ExceptT.lift (i.settingsFile h)
  let entries ← h.dotenv (file.map fun f => (Path.parent? f).getD ".")
  let set ← h.lookUp (Environment.known ++ Dotenv.mentioned entries)
  let environment := set.extend entries
  let settings ← h.settings file
  let settings ← (settings.withEnvironment environment).mapError Failure.config
  let warnings ← settings.check.mapError Failure.config
  return ⟨settings, environment, warnings⟩

/-- How often the run of a controller takes a step at most. -/
def stepLimit : Nat := 1000000000000

/-- Runs the controller over blueprints for some seconds. The end comes before everything else
that is due then. -/
def Host.watch (s : Settings) (diffs : Keyed StateDiff) (ids : List String)
    (seconds burst : UInt64) : m Summary := do
  let pace : Pace m :=
    { plan := fun key _ => do
        return ⟨.zero, (← h.onStore s.statePath (s.pass diffs key)).toOption⟩
      wait := h.wait }
  let start := TimedRun.initial s.window s.requeue.backoff
  let triggers := ids.flatMap fun id => List.replicate (burst.toNat + 1) (Trigger.notify id)
  let r : TimedRun := { start with controller := triggers.foldl Controller.send start.controller }
  let r ← match Moment.start.add? (.ofSeconds seconds) with
    | some target => if seconds = 0 then pure r else r.advance pace target stepLimit
    | none => r.advance pace ⟨Moment.horizon⟩ stepLimit
  return r.controller.summary

/-- Brings documents into the store, one after the other, and collects their identifiers and
diffs. -/
def Host.gather (s : Settings) (files : List String) :
    ExceptT Failure m (List String × Keyed StateDiff) :=
  files.foldlM (fun (ids, diffs) file => do
    let d ← h.document file
    let _ ← h.work s (Stored.adopt d.rehearsed)
    return (ids ++ [d.id], diffs.put d.id d.diff)) ([], .empty)

/-- Carries out a command. -/
def Command.perform (s : Settings) (p : Printer) : Command → ExceptT Failure m Achievement
  | .validate file => do
    let d ← h.document file
    let verdict := s.accepts d
    let error := match verdict with
      | .ok () => none
      | .error f => some f.message
    return ⟨verdict.isOk, p.validation d.id d.diff error⟩
  | .evaluate file => do
    let d ← h.document file
    let e ← h.work s (s.evaluate d)
    return ⟨e.report.error.isNone, p.pass e.report e.stored⟩
  | .status id => do
    let b ← h.work s (Stored.repository.load id)
    let events ← h.work s (Stored.inspect fun st => st.history id)
    return ⟨true, p.status b events⟩
  | .watch files seconds burst => do
    let (ids, diffs) ← h.gather s files
    let summary ← ExceptT.lift (h.watch s diffs ids seconds burst)
    return ⟨summary.isClean, p.summary summary⟩

/-- Carries out a request. What is printed ends with a newline. -/
def Invocation.perform (i : Invocation) : m Ending := do
  match ← (i.prepare h).run with
  | .error f => return ⟨false, "", ["Error: " ++ f.message]⟩
  | .ok prepared =>
    let printer : Printer := ⟨i.output, prepared.environment.wantsColor (← h.terminal)⟩
    let warnings := prepared.warnings.map printer.warning
    match ← (i.command.perform h prepared.settings printer).run with
    | .error f => return ⟨false, "", warnings ++ ["Error: " ++ f.message]⟩
    | .ok a => return ⟨a.success, a.text ++ "\n", warnings⟩

/-- The program, given the words of its command line. -/
def Program.run (words : List String) : m (Except UsageFault Ending) := do
  match Invocation.read words (← h.lookUp Environment.known) with
  | .error fault => return .error fault
  | .ok i => return .ok (← i.perform h)

end BlueprintControl
