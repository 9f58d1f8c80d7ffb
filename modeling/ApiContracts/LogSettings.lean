import ApiContracts.Text.Case

/-!
Settings of the log, from three environment variables and the verbose switch.
-/

namespace ApiContracts

inductive LogLevel where
  | trace | debug | info | warn | error
deriving DecidableEq, Repr

inductive LogFormat where
  | json | pretty
deriving DecidableEq, Repr

structure LogSettings where
  levelName : String
  format : LogFormat
  includeLocation : Bool
deriving DecidableEq, Repr

def lowerWord (word : String) : String := String.ofList (Text.lower word.toList)

def LogFormat.ofWord (word : String) : LogFormat :=
  if lowerWord word == "json" then .json else .pretty

def LogLevel.ofWord (word : String) : LogLevel :=
  match lowerWord word with
  | "trace" => .trace
  | "debug" => .debug
  | "warn" => .warn
  | "error" => .error
  | _ => .info

namespace LogSettings

def ofVariables (level format location : Option String) : LogSettings :=
  { levelName := level.getD "info"
    format := (format.map LogFormat.ofWord).getD .pretty
    includeLocation := location == some "true" }

def verbose (settings : LogSettings) (on : Bool) : LogSettings :=
  if on then { settings with levelName := "debug" } else settings

def level (settings : LogSettings) : LogLevel := .ofWord settings.levelName

end LogSettings

end ApiContracts
