import ApiContracts.Json.Reader
import ApiContracts.OpenApi.Decode
import ApiContracts.OpenApi.Mapping
import ApiContracts.Yaml.Value

/-!
Schema documents read from text.
-/

namespace ApiContracts

inductive LoadError where
  | notYaml
  | notJson
  | notDescription
  | generation (error : GenerationError)
deriving DecidableEq, Repr

def LoadError.message : LoadError → String
  | .notYaml => "document is not valid YAML"
  | .notJson => "document is not valid JSON"
  | .notDescription => "document is not a valid OpenAPI 3 document"
  | .generation error => error.message

def Document.ofJson (value : Json) : Except LoadError Document :=
  match OpenApi.description value with
  | none => .error .notDescription
  | some description => (OpenApi.document description).mapError .generation

def Document.ofText (text : String) (yaml : Bool) : Except LoadError Document :=
  if yaml then
    match Yaml.read? text with
    | none => .error .notYaml
    | some value => Document.ofJson value
  else
    match Json.read? text with
    | none => .error .notJson
    | some value => Document.ofJson value

end ApiContracts
