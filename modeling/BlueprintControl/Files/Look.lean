/-!
# What stands at a path

A path leads to a file, to a folder, or to nothing, and then there is a reason why.

## Main definitions

* `OsError`: why an operation on a path fails.
* `Item`: a file or a folder.
* `Look`: what is found at a path.
* `Look.readText`: the text of a file.
-/
namespace BlueprintControl

/-- Why an operation on a path fails. -/
inductive OsError where
  | missing
  | denied
  | notFolder
  | isFolder
  | nameTooLong
  deriving DecidableEq, Repr

/-- The message of the operating system. -/
def OsError.message : OsError → String
  | .missing => "No such file or directory (os error 2)"
  | .denied => "Permission denied (os error 13)"
  | .notFolder => "Not a directory (os error 20)"
  | .isFolder => "Is a directory (os error 21)"
  | .nameTooLong => "File name too long (os error 36)"

/-- Names are at most this many octets long. -/
def nameLimit : Nat := 255

/-- What a name in a folder stands for. -/
inductive Item where
  | file (content : ByteArray)
  | folder

/-- What is found at a path. -/
inductive Look where
  | file (content : ByteArray)
  | folder
  | absent (why : OsError)

namespace Look

/-- What is found where there may be an item. -/
def ofItem? : Option Item → Look
  | some (.file content) => .file content
  | some .folder => .folder
  | none => .absent .missing

/-- Whether there is anything. -/
def exists? : Look → Bool
  | .absent _ => false
  | _ => true

/-- The content of a file. -/
def read : Look → Except OsError ByteArray
  | .file content => .ok content
  | .folder => .error .isFolder
  | .absent why => .error why

/-- The text of a file, or the message why there is none. -/
def readText (l : Look) : Except String String :=
  match l.read with
  | .error e => .error e.message
  | .ok content => match String.fromUTF8? content with
    | some s => .ok s
    | none => .error "stream did not contain valid UTF-8"

end Look

end BlueprintControl
