import ApiContracts.Error
import ApiContracts.OpenApi.Model

/-!
The schema document of an API description. Objects and string enumerations among the named
schemas become models; all others are inlined where they are referred to.
-/

namespace ApiContracts.OpenApi

abbrev Schemas := List (String × Schema)

def schemaRefStart : String := "#/components/schemas/"

def parameterRefStart : String := "#/components/parameters/"

/-- How many schemas deep a type is followed before it counts as free-form. -/
def maxAliasDepth : Nat := 16

def refName (path : String) : String :=
  String.ofList ((path.toList.reverse.takeWhile (· != '/')).reverse)

def dropStart? (start text : String) : Option String :=
  if start.toList.isPrefixOf text.toList then
    some (String.ofList (text.toList.drop start.toList.length))
  else none

/-- The word for the type of a schema: its first one that is not `null`, where it lists
several. -/
def TypeKeyword.word? : TypeKeyword → Option String
  | one word => some word
  | several words => words.find? (· != "null")

def TypeKeyword.isNullable : TypeKeyword → Bool
  | one word => word == "null"
  | several words => words.contains "null"

namespace Keywords

variable {σ : Type}

def word? (keywords : Keywords σ) : Option String := keywords.type.bind (·.word?)

def texts (keywords : Keywords σ) : List String := keywords.enumeration.filterMap (·.asString?)

end Keywords

namespace Schema

def isNull : Schema → Bool
  | object keywords => keywords.type == some (.one "null")
  | _ => false

/-- Whether a schema says what is in the members that it does not name. -/
def isOpen (additional : Option Schema) : Bool :=
  match additional with
  | some (.always allowed) => allowed
  | some _ => true
  | none => false

/-- Whether a named schema is a model: a nonempty enumeration of texts or, if it enumerates
nothing, an object with named properties, with several parts, or with no free members. -/
def isModel : Schema → Bool
  | object keywords =>
    if !keywords.enumeration.isEmpty then
      keywords.enumeration.all (·.asString?.isSome)
    else
      !keywords.properties.isEmpty || keywords.allOf.length > 1 ||
        (keywords.word? == some "object" && !isOpen keywords.additionalProperties)
  | _ => false

end Schema

def isModelName (schemas : Schemas) (name : String) : Bool :=
  (schemas.lookup name).any Schema.isModel

structure Typing where
  type : TypeExpr
  nullable : Bool
deriving DecidableEq, Repr

def textType : Option String → Scalar
  | some "date" => .date
  | some "date-time" => .dateTime
  | some "uuid" => .uuid
  | some "duration" => .duration
  | some "binary" | some "byte" => .binary
  | _ => .string

/-- The type of a schema at a place where `budget` more schemas may be followed. -/
def typing (schemas : Schemas) : (budget : Nat) → Schema → Typing
  | 0, _ => ⟨.scalar .any, false⟩
  | budget + 1, schema =>
    match schema with
    | .always _ => ⟨.scalar .any, false⟩
    | .reference path _ =>
      let name := refName path
      if (dropStart? schemaRefStart path).isSome && !isModelName schemas name then
        match schemas.lookup name with
        | some target => typing schemas budget target
        | none => ⟨.reference name, false⟩
      else ⟨.reference name, false⟩
    | .object keywords =>
      let variants := if keywords.oneOf.isEmpty then keywords.anyOf else keywords.oneOf
      if !variants.isEmpty then
        let hasNull := variants.any Schema.isNull
        match variants.filter (!·.isNull) with
        | [single] =>
          let inner := typing schemas budget single
          ⟨inner.type, hasNull || inner.nullable⟩
        | _ => ⟨.scalar .any, hasNull⟩
      else
        match keywords.allOf with
        | [single] => typing schemas budget single
        | _ :: _ :: _ => ⟨.scalar .any, false⟩
        | [] =>
          let members :=
            if !keywords.properties.isEmpty then .scalar .any
            else match keywords.additionalProperties with
              | some (.always true) => .map (.scalar .string) (.scalar .any)
              | some (.always false) | none => .scalar .any
              | some values => .map (.scalar .string) (typing schemas budget values).type
          let type : TypeExpr :=
            match keywords.word? with
            | some "string" => .scalar (textType keywords.format)
            | some "integer" =>
              .scalar (if keywords.format == some "int64" then .long else .integer)
            | some "number" =>
              .scalar (if keywords.format == some "float" then .float else .double)
            | some "boolean" => .scalar .bool
            | some "array" =>
              .array (match keywords.items with
                | some items => (typing schemas budget items).type
                | none => .scalar .any)
            | some "object" | none => members
            | some _ => .scalar .any
          ⟨type, keywords.type.any (·.isNullable)⟩

def typeOf (schemas : Schemas) (schema : Schema) : Typing :=
  typing schemas (maxAliasDepth + 1) schema

def propertyOf (schemas : Schemas) (name : String) (schema : Schema) (required : Bool) :
    Property :=
  let typing := typeOf schemas schema
  match schema with
  | .object keywords =>
    { name
      type := typing.type
      required
      nullable := typing.nullable
      description := keywords.description
      constraints := keywords.constraints
      pattern := keywords.pattern }
  | .reference _ description =>
    { name, type := typing.type, required, nullable := typing.nullable, description
      constraints := .none, pattern := none }
  | .always _ =>
    { name, type := typing.type, required, nullable := typing.nullable, description := none
      constraints := .none, pattern := none }

def putProperty (property : Property) : List Property → List Property
  | [] => [property]
  | first :: rest =>
    if first.name == property.name then property :: rest else first :: putProperty property rest

/-- Adds the properties of a schema to others: those of its parts, then its own. -/
def collect (schemas : Schemas) : (budget : Nat) → Schema → List Property → List Property
  | 0, _, found => found
  | budget + 1, schema, found =>
    match schema with
    | .always _ => found
    | .reference path _ =>
      match schemas.lookup (refName path) with
      | some target => collect schemas budget target found
      | none => found
    | .object keywords =>
      let inherited := keywords.allOf.foldl (fun found part => collect schemas budget part found)
        found
      keywords.properties.foldl (fun found (name, inner) =>
        putProperty (propertyOf schemas name inner (keywords.required.contains name)) found)
        inherited

def modelOf (schemas : Schemas) (name : String) (schema : Schema) : Model :=
  match schema with
  | .object keywords =>
    { name
      description := keywords.description
      properties :=
        if keywords.texts.isEmpty then collect schemas (maxAliasDepth + 1) schema [] else []
      enumValues := keywords.texts }
  | _ => { name, description := none, properties := [], enumValues := [] }

def modelsOf (schemas : Schemas) : List Model :=
  (schemas.filter (·.2.isModel)).map fun (name, schema) => modelOf schemas name schema

def resolveParameter? (description : Description) :
    OrReference ParameterObject → Option ParameterObject
  | .inline parameter => some parameter
  | .reference path =>
    (dropStart? parameterRefStart path).bind fun name =>
      match description.parameters.lookup name with
      | some (.inline parameter) => some parameter
      | _ => none

def parameterOf (schemas : Schemas) (parameter : ParameterObject) : Parameter :=
  { name := parameter.name
    location := parameter.location
    required := parameter.location == .path || parameter.required.getD false
    type :=
      match parameter.schema with
      | some schema => (typeOf schemas schema).type
      | none => .scalar .string }

def resolvedParameters (description : Description)
    (parameters : List (OrReference ParameterObject)) : List Parameter :=
  (parameters.filterMap (resolveParameter? description)).map (parameterOf description.schemas)

def parameterDefects (description : Description)
    (parameters : List (OrReference ParameterObject)) : List Defect :=
  parameters.filterMap fun parameter =>
    match parameter with
    | .inline _ => none
    | .reference path =>
      if (resolveParameter? description parameter).isNone then some (.unresolvedParameter path)
      else none

def putParameter (parameter : Parameter) : List Parameter → List Parameter
  | [] => [parameter]
  | first :: rest =>
    if first.name == parameter.name && first.location == parameter.location then
      parameter :: rest
    else first :: putParameter parameter rest

def mergeParameters (inherited own : List Parameter) : List Parameter :=
  own.foldl (fun merged parameter => putParameter parameter merged) inherited

/-- The body that is read: the one of `application/json`, or else the first of a media type
that ends in `/json` or `+json`. -/
def jsonMedia? (content : Content) : Option MediaType :=
  match content.lookup "application/json" with
  | some media => some media
  | none =>
    (content.find? fun (name, _) =>
      Text.endsIn "/json".toList name.toList || Text.endsIn "+json".toList name.toList).map (·.2)

def jsonSchema? (content : Content) : Option Schema := (jsonMedia? content).bind (·.schema)

def requestBodyOf (schemas : Schemas) (operation : OperationObject) : Option RequestBody :=
  match operation.requestBody with
  | some (.inline body) =>
    (jsonSchema? body.content).map fun schema =>
      { type := (typeOf schemas schema).type, required := body.required.getD false }
  | _ => none

/-- The number of a status: decimal digits, perhaps behind a plus sign, of 16 bits. -/
def statusCode? (status : String) : Option Nat :=
  let digits :=
    match status.toList with
    | '+' :: rest => rest
    | chars => chars
  if digits.isEmpty || !digits.all Text.isAsciiDigit then none
  else
    let code := digits.foldl (fun value c => value * 10 + (c.toNat - '0'.toNat)) 0
    if code < 65536 then some code else none

def successes (responses : List (String × OrReference ResponseObject)) :
    List (Nat × ResponseObject) :=
  responses.filterMap fun (status, response) =>
    match statusCode? status, response with
    | some code, .inline response =>
      if 200 ≤ code && code < 300 then some (code, response) else none
    | _, _ => none

/-- Whether one code is looked at no later than another: 200 first, then ascending. -/
def codeBefore (first second : Nat) : Bool :=
  first == 200 || (second != 200 && first ≤ second)

def responseShape (schemas : Schemas) (operation : OperationObject) : ResponseShape :=
  let ordered := (successes operation.responses).mergeSort fun a b => codeBefore a.1 b.1
  match ordered.findSome? fun (_, response) => jsonSchema? response.content with
  | some schema => .ofType (typeOf schemas schema).type
  | none => .void

def entries (description : Description) :
    List (String × String × PathItem × OperationObject) :=
  description.paths.flatMap fun (path, item) =>
    item.operations.map fun (verb, operation) => (path, verb, item, operation)

structure Progress where
  issues : List Issue
  operations : List Operation
  seen : List (String × String)

namespace Progress

def start : Progress := ⟨[], [], []⟩

def report (progress : Progress) (location : String) (defects : List Defect) : Progress :=
  { progress with issues := progress.issues ++ defects.map (Issue.mk location) }

def step (description : Description) (progress : Progress)
    (entry : String × String × PathItem × OperationObject) : Progress :=
  let (path, verb, item, operation) := entry
  let location := "paths." ++ path ++ "." ++ verb
  match operation.operationId with
  | none => progress.report location [.missingOperationId]
  | some operationId =>
    let known := progress.seen.lookup operationId
    let progress := { progress with seen := (operationId, location) :: progress.seen }
    match known with
    | some previous => progress.report location [.duplicateOperationId operationId previous]
    | none =>
      let progress := progress.report location
        (parameterDefects description item.parameters ++
          parameterDefects description operation.parameters)
      let declared : Except Defect ResponseShape :=
        match operation.returnType with
        | none => .ok (responseShape description.schemas operation)
        | some text =>
          match TypeExpr.parse (isModelName description.schemas) text with
          | .ok type => .ok (ResponseShape.ofType type)
          | .error fault => .error (Defect.invalidReturnType text fault)
      match declared with
      | .error defect => progress.report location [defect]
      | .ok response =>
        let made : Operation :=
          { operationId
            method := ⟨String.ofList (verb.toList.map Char.toUpper)⟩
            path
            summary := operation.summary
            tags := operation.tags
            parameters :=
              mergeParameters (resolvedParameters description item.parameters)
                (resolvedParameters description operation.parameters)
            requestBody := requestBodyOf description.schemas operation
            response }
        { progress with operations := progress.operations ++ [made] }

end Progress

def document (description : Description) : Except GenerationError Document :=
  let progress := (entries description).foldl (Progress.step description) .start
  if progress.issues.isEmpty then
    .ok
      { title := description.title
        version := description.version
        operations := progress.operations
        models := modelsOf description.schemas }
  else .error (.invalidSchema progress.issues)

end ApiContracts.OpenApi
