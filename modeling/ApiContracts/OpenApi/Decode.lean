import ApiContracts.OpenApi.Model
import ApiContracts.OpenApi.Url

/-!
API descriptions read from JSON values. A value fits the model or it does not; keys that the
model does not know say nothing.
-/

namespace ApiContracts

/-- How often a value has to be opened until nothing is left inside; bounds every recursion
into it. -/
def Json.height : Json → Nat
  | array elements => heights elements + 1
  | object members => memberHeights members + 1
  | _ => 1
where
  heights : List Json → Nat
    | [] => 0
    | value :: rest => max value.height (heights rest)
  memberHeights : List (String × Json) → Nat
    | [] => 0
    | (_, value) :: rest => max value.height (memberHeights rest)

namespace OpenApi

abbrev Decoder (α : Type) := Json → Option α

def optional {α : Type} (key : String) (decode : Decoder α) (value : Json) : Option (Option α) :=
  match value.member? key with
  | none | some .null => some none
  | some inner => (decode inner).map some

def required {α : Type} (key : String) (decode : Decoder α) (value : Json) : Option α :=
  (value.member? key).bind decode

def elements {α : Type} (decode : Decoder α) (value : Json) : Option (List α) :=
  value.asArray?.bind fun values => values.mapM decode

def members {α : Type} (decode : Decoder α) (value : Json) : Option (List (String × α)) :=
  value.asObject?.bind fun values =>
    values.mapM fun (key, inner) => (decode inner).map (key, ·)

def listed {α : Type} (key : String) (decode : Decoder α) (value : Json) : Option (List α) :=
  match value.member? key with
  | none => some []
  | some inner => elements decode inner

def mapped {α : Type} (key : String) (decode : Decoder α) (value : Json) :
    Option (List (String × α)) :=
  match value.member? key with
  | none => some []
  | some inner => members decode inner

def guardThat (condition : Bool) : Option Unit := if condition then some () else none

def isObject (value : Json) : Option Unit := guardThat value.asObject?.isSome

def text : Decoder String := Json.asString?

def flag : Decoder Bool := Json.asBool?

def count : Decoder Nat := Json.asNat?

def number : Decoder Float := Json.asFloat?

def anything : Decoder Unit := fun _ => some ()

def url : Decoder Unit := fun value => value.asString?.bind fun s => guardThat (Url.isAbsolute s)

def word (words : List String) : Decoder String := fun value =>
  value.asString?.bind fun s => if words.contains s then some s else none

def shape (parts : List (Decoder Unit)) : Decoder Unit := fun value => do
  isObject value
  parts.forM fun part => part value

def checked {α : Type} (decode : Decoder α) : Decoder Unit := fun value =>
  (decode value).map fun _ => ()

/-- The path of a reference; its summary and description have to be texts. -/
def referencePath? (value : Json) : Option (String × Option String) := do
  let path ← required "$ref" text value
  let _ ← optional "summary" text value
  let description ← optional "description" text value
  return (path, description)

def orReference {α : Type} (decode : Decoder α) : Decoder (OrReference α) := fun value =>
  match referencePath? value with
  | some (path, _) => some (.reference path)
  | none => (decode value).map .inline

def typeWords : List String :=
  ["boolean", "integer", "number", "string", "array", "object", "null"]

def typeKeyword : Decoder TypeKeyword := fun value =>
  match value with
  | .array _ => (elements (word typeWords) value).map .several
  | _ => (word typeWords value).map .one

def discriminator : Decoder Unit :=
  shape [checked (required "propertyName" text), checked (optional "mapping" (members text))]

/-- The keywords of a schema object; `nested` reads a schema inside and `orFlag` one that may
also be a truth value. -/
def keywords {σ : Type} (nested orFlag : Decoder σ) : Decoder (Keywords σ) := fun value => do
  isObject value
  for key in ["multipleOf", "exclusiveMaximum", "exclusiveMinimum"] do
    let _ ← optional key number value
  for key in ["maxProperties", "minProperties"] do
    let _ ← optional key count value
  for key in ["uniqueItems", "deprecated", "readOnly", "writeOnly"] do
    let _ ← optional key flag value
  let _ ← optional "title" text value
  let _ ← optional "discriminator" discriminator value
  let _ ← listed "examples" anything value
  let _ ← listed "prefixItems" nested value
  return {
    type := ← optional "type" typeKeyword value
    format := ← optional "format" text value
    description := ← optional "description" text value
    pattern := ← optional "pattern" text value
    constraints := {
      minLength := ← optional "minLength" count value
      maxLength := ← optional "maxLength" count value
      minimum := ← optional "minimum" number value
      maximum := ← optional "maximum" number value
      minItems := ← optional "minItems" count value
      maxItems := ← optional "maxItems" count value }
    enumeration := ← listed "enum" some value
    required := ← listed "required" text value
    properties := ← mapped "properties" nested value
    allOf := ← listed "allOf" nested value
    anyOf := ← listed "anyOf" nested value
    oneOf := ← listed "oneOf" nested value
    items := ← optional "items" orFlag value
    additionalProperties := ← optional "additionalProperties" orFlag value }

def schemaWithin : (fuel : Nat) → Decoder Schema
  | 0, _ => none
  | fuel + 1, value =>
    match referencePath? value with
    | some (path, description) => some (.reference path description)
    | none =>
      let orFlag : Decoder Schema := fun inner =>
        match inner with
        | .bool flag => some (.always flag)
        | _ => schemaWithin fuel inner
      (keywords (schemaWithin fuel) orFlag value).map .object

def schema : Decoder Schema := fun value => schemaWithin value.height value

def exampleObject : Decoder Unit :=
  shape [checked (optional "summary" text), checked (optional "description" text)]

def styles : List String :=
  ["matrix", "label", "form", "simple", "spaceDelimited", "pipeDelimited", "deepObject"]

def parameterParts : List (Decoder Unit) :=
  [checked (optional "description" text), checked (optional "required" flag),
    checked (optional "deprecated" flag), checked (optional "allowEmptyValue" flag),
    checked (optional "explode" flag), checked (optional "allowReserved" flag),
    checked (optional "style" (word styles)), checked (optional "schema" schema)]

def header : Decoder Unit := shape parameterParts

def encoding : Decoder Unit :=
  shape [checked (optional "contentType" text), checked (mapped "headers" (orReference header)),
    checked (optional "style" (word styles)), checked (optional "explode" flag),
    checked (optional "allowReserved" flag)]

def mediaType : Decoder MediaType := fun value => do
  isObject value
  let _ ← mapped "encoding" encoding value
  return { schema := ← optional "schema" schema value }

def parameter : Decoder ParameterObject := fun value => do
  shape parameterParts value
  let _ ← optional "content" (members mediaType) value
  let _ ← mapped "examples" (orReference exampleObject) value
  return {
    name := ← required "name" text value
    location := ← (← required "in" text value) |> ParameterLocation.ofText?
    required := ← optional "required" flag value
    schema := ← optional "schema" schema value }

def serverVariable : Decoder Unit :=
  shape [checked (required "default" text), checked (listed "enum" text),
    checked (optional "description" text)]

def server : Decoder Unit :=
  shape [checked (required "url" text), checked (optional "description" text),
    checked (mapped "variables" serverVariable)]

def externalDocs : Decoder Unit :=
  shape [checked (required "url" url), checked (optional "description" text)]

def securityRequirement : Decoder Unit := checked (members (elements text))

def requestBody : Decoder RequestBodyObject := fun value => do
  isObject value
  let _ ← optional "description" text value
  return {
    content := ← required "content" (members mediaType) value
    required := ← optional "required" flag value }

def link : Decoder Unit := fun value => do
  isObject value
  guardThat ((required "operationRef" text value).isSome ||
    (required "operationId" text value).isSome)
  let _ ← mapped "parameters" anything value
  let _ ← optional "description" text value
  let _ ← optional "server" server value

def response : Decoder ResponseObject := fun value => do
  isObject value
  let _ ← optional "description" text value
  let _ ← mapped "headers" (orReference header) value
  let _ ← mapped "links" (orReference link) value
  return { content := ← mapped "content" mediaType value }

/-- The declared result of an operation: of the two keys for it the longer one counts, and only
a text declares anything. -/
def returnType? (value : Json) : Option String :=
  match value.member? "x-x-return-type" with
  | some declared => declared.asString?
  | none => (value.member? "x-return-type").bind Json.asString?

def operation (callback : Decoder Unit) : Decoder OperationObject := fun value => do
  isObject value
  let _ ← optional "description" text value
  let _ ← optional "deprecated" flag value
  let _ ← optional "externalDocs" externalDocs value
  let _ ← mapped "callbacks" callback value
  let _ ← listed "security" securityRequirement value
  let _ ← listed "servers" server value
  return {
    operationId := ← optional "operationId" text value
    summary := ← optional "summary" text value
    tags := ← listed "tags" text value
    parameters := ← listed "parameters" (orReference parameter) value
    requestBody := ← optional "requestBody" (orReference requestBody) value
    responses := (← optional "responses" (members (orReference response)) value).getD []
    returnType := returnType? value }

/-- The verbs of a path in the order in which its operations are taken; `trace` is taken
twice. -/
def verbs : List String :=
  ["get", "put", "post", "delete", "options", "head", "patch", "trace", "trace"]

def pathItemWithin : (fuel : Nat) → Decoder PathItem
  | 0, _ => none
  | fuel + 1, value => do
    isObject value
    for key in ["$ref", "summary", "description"] do
      let _ ← optional key text value
    let _ ← listed "servers" server value
    let parameters ← listed "parameters" (orReference parameter) value
    let callback := checked (members (pathItemWithin fuel))
    let operations ← verbs.mapM fun verb =>
      (optional verb (operation callback) value).map fun found => found.map (verb, ·)
    return { parameters, operations := operations.filterMap id }

def pathItem : Decoder PathItem := fun value => pathItemWithin value.height value

def contact : Decoder Unit :=
  shape [checked (optional "name" text), checked (optional "email" text),
    checked (optional "url" url)]

def license : Decoder Unit :=
  shape [checked (required "name" text), checked (optional "identifier" text),
    checked (optional "url" url)]

def info : Decoder (String × String) := fun value => do
  isObject value
  let _ ← optional "summary" text value
  let _ ← optional "description" text value
  let _ ← optional "termsOfService" url value
  let _ ← optional "contact" contact value
  let _ ← optional "license" license value
  return (← required "title" text value, ← required "version" text value)

def flow (addresses : List String) : Decoder Unit :=
  shape (addresses.map (fun key => checked (required key url)) ++
    [checked (optional "refreshUrl" url), checked (mapped "scopes" text)])

def flows : Decoder Unit :=
  shape [checked (optional "implicit" (flow ["authorizationUrl"])),
    checked (optional "password" (flow ["tokenUrl"])),
    checked (optional "clientCredentials" (flow ["tokenUrl"])),
    checked (optional "authorizationCode" (flow ["authorizationUrl", "tokenUrl"]))]

def securityScheme : Decoder Unit := fun value => do
  isObject value
  let _ ← optional "description" text value
  match ← required "type" text value with
  | "apiKey" =>
    let _ ← required "name" text value
    let _ ← required "in" text value
  | "http" =>
    let _ ← required "scheme" text value
    let _ ← optional "bearerFormat" text value
  | "oauth2" => required "flows" flows value
  | "openIdConnect" => checked (required "openIdConnectUrl" text) value
  | "mutualTLS" => return ()
  | _ => none

/-- Named components: the schemas and parameters, once all of them fit. -/
def components : Decoder (List (String × Schema) × List (String × OrReference ParameterObject)) :=
  fun value => do
    isObject value
    let _ ← mapped "responses" (orReference response) value
    let _ ← mapped "examples" (orReference exampleObject) value
    let _ ← mapped "requestBodies" (orReference requestBody) value
    let _ ← mapped "headers" (orReference header) value
    let _ ← mapped "pathItems" (orReference pathItem) value
    let _ ← mapped "securitySchemes" (orReference securityScheme) value
    let _ ← mapped "links" (orReference link) value
    let _ ← mapped "callbacks" (orReference (members pathItem)) value
    return (← mapped "schemas" schema value, ← mapped "parameters" (orReference parameter) value)

def tag : Decoder Unit :=
  shape [checked (required "name" text), checked (optional "description" text)]

def description : Decoder Description := fun value => do
  isObject value
  let _ ← required "openapi" text value
  let (title, version) ← required "info" info value
  let _ ← listed "servers" server value
  let _ ← listed "security" securityRequirement value
  let _ ← listed "tags" tag value
  let _ ← mapped "webhooks" pathItem value
  let _ ← optional "externalDocs" externalDocs value
  let paths ← optional "paths" (members pathItem) value
  let named ← optional "components" components value
  let (schemas, parameters) := named.getD ([], [])
  return { title, version, paths := paths.getD [], schemas, parameters }

end OpenApi

end ApiContracts
