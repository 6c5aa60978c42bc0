import BlueprintControl.CommandLine.Program
import Std.Time.DateTime.Timestamp

/-!
# Running the program

The program on the machine: its files, variables and clock. The directory of the store is read
before every piece of work on the store, and what has changed is written back afterwards.

## Main definitions

* `Machine.host`: the machine as a host.
* `main`: the program.
-/
namespace BlueprintControl.Machine

/-- Why an operation failed. -/
def osError : IO.Error → OsError
  | .noFileOrDirectory _ _ _ => .missing
  | .inappropriateType _ code _ => if code = 21 then .isFolder else .notFolder
  | .invalidArgument _ _ _ => .nameTooLong
  | _ => .denied

/-- What is found at a path. -/
def look (path : String) : IO Look := do
  try
    return .file (← IO.FS.readBinFile path)
  catch e =>
    return match osError e with
      | .isFolder => .folder
      | why => .absent why

/-- Reads the directory of a store. -/
def readPlace (path : String) : IO Place := do
  match ← look path with
  | .file _ => return .occupied
  | .absent .missing => return .absent
  | .absent why => return .blocked why
  | .folder =>
    let folder ← IO.FS.realPath path
    let mut items : Keyed Item := .empty
    for entry in ← folder.readDir do
      match ← look (Path.join path entry.fileName) with
      | .file content => items := items.put entry.fileName (.file content)
      | .folder => items := items.put entry.fileName .folder
      | .absent _ => pure ()
    return .directory items

/-- Writes a file by way of a temporary one. -/
def replaceFile (path : String) (content : ByteArray) : IO Unit := do
  let temporary := path ++ ".part"
  IO.FS.writeBinFile temporary content
  IO.FS.rename temporary path

/-- Writes back what has changed in the directory of a store. -/
def writePlace (path : String) (before after : Place) : IO Unit := do
  match after with
  | .directory items =>
    unless before.exists? do IO.FS.createDirAll path
    for (name, item) in items.entries do
      match item, before.items.find? name with
      | .file content, some (.file known) =>
        unless content.data == known.data do replaceFile (Path.join path name) content
      | .file content, _ => replaceFile (Path.join path name) content
      | .folder, _ => pure ()
    for name in before.items.keys do
      unless items.contains name do IO.FS.removeFile (Path.join path name)
  | _ => pure ()

/-- The time. -/
def now : IO Stamp := do
  return .sinceEpoch (← Std.Time.Timestamp.now).toNanosecondsSinceUnixEpoch.val.toNat

/-- Identifiers that have not been used before: every operation and every one of its identifiers
has a digest of its own. -/
def freshIds (seed : ByteArray) (operation : Nat) (i : Nat) : Uuid :=
  let name := "-" ++ toString operation ++ "-" ++ toString i
  let digits := (Digest.hex (seed ++ name.toUTF8)).toList
  .random fun d => (digits[d]?.bind hexValue?).getD (hexPart 0)

/-- Works on the store in a folder. -/
def onStore {α : Type} (path : String) (task : Task Stored α) : IO (Except Failure α) := do
  let place ← readPlace path
  let time ← now
  let seed ← IO.getRandomBytes 16
  let around (operation : Nat) : Surroundings := .smooth time (freshIds seed operation)
  let (r, after) := task.run ⟨⟨path, place⟩, around, 0⟩
  try
    writePlace path place after.store.place
    return r
  catch e => return .error (.store (.backend (osError e).message))

/-- Waits until a number of nanoseconds has passed since a start. -/
def wait (start : Nat) (moment : Moment) : IO Moment := do
  let passed := (← IO.monoNanosNow) - start
  if passed < moment.nanos then
    IO.sleep (min ((moment.nanos - passed) / 1000000 + 1) (UInt32.size - 1)).toUInt32
  return ⟨max moment.nanos ((← IO.monoNanosNow) - start)⟩

/-- The machine as a host, since a start. -/
def host (start : Nat) : Host IO where
  look := look
  lookUp names := names.filterMapM fun name => do
    return (← IO.getEnv name).map fun value => (name, value)
  folder := do return (← IO.currentDir).toString
  terminal := do (← IO.getStdout).isTty
  onStore := onStore
  wait := wait start

/-- Runs the program, and gives its exit code. -/
def run (words : List String) : IO UInt32 := do
  match ← Program.run (host (← IO.monoNanosNow)) words with
  | .error fault =>
    if fault.exitCode = 0 then IO.print fault.text else IO.eprint fault.text
    return fault.exitCode.toUInt32
  | .ok ending =>
    for remark in ending.remarks do
      IO.eprintln remark
    IO.print ending.output
    return if ending.success then 0 else 1

end BlueprintControl.Machine

/-- The program. -/
def main (words : List String) : IO UInt32 := BlueprintControl.Machine.run words
