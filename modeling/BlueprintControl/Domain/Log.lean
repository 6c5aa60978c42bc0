/-!
# Log lines

What operations have to say to the operator, as data. The outer layer decides where the lines go.

## Main definitions

* `Log.Level`, `Log.Line`: a line and how serious it is.
-/
namespace BlueprintControl.Log

/-- How serious a line is. -/
inductive Level where
  | info
  | warn
  | error
  deriving DecidableEq, Repr

/-- The name of a level. -/
def Level.name : Level → String
  | .info => "INFO"
  | .warn => "WARN"
  | .error => "ERROR"

/-- A line. -/
structure Line where
  level : Level
  message : String
  deriving DecidableEq, Repr

end BlueprintControl.Log
