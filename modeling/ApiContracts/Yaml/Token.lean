/-!
Tokens of YAML text.
-/

namespace ApiContracts.Yaml

structure TagText where
  handle : String
  suffix : String
deriving DecidableEq, Repr

inductive Token where
  | versionDirective (major minor : Nat)
  | tagDirective (handle expansion : String)
  | documentStart
  | documentEnd
  | blockSequenceStart
  | blockMappingStart
  | blockEnd
  | flowSequenceStart
  | flowSequenceEnd
  | flowMappingStart
  | flowMappingEnd
  | blockEntry
  | flowEntry
  | key
  | value
  | aliasOf (name : String)
  | anchor (name : String)
  | tag (text : TagText)
  /-- A scalar; `plain` ones are written without quotes on ordinary lines. -/
  | scalar (text : String) (plain : Bool)
  | streamEnd
deriving DecidableEq, Repr

end ApiContracts.Yaml
