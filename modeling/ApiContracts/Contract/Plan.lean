import ApiContracts.Contract.Classification
import ApiContracts.Contract.Closure

/-!
The plan of a document: its DTOs, validators, requests and handlers, every name derived and
every clash of names found.
-/

namespace ApiContracts

structure PlanOptions where
  validators : Bool
  includeAllModels : Bool
deriving DecidableEq, Repr

structure RequestField where
  name : String
  fieldName : String
  type : TypeExpr
  required : Bool
  /-- Where the parameter is carried; the body has no location. -/
  location : Option ParameterLocation
deriving DecidableEq, Repr

def RequestField.fieldType (field : RequestField) : String :=
  if field.required then field.type.render else "Option<" ++ field.type.render ++ ">"

structure Request where
  kind : RequestKind
  name : String
  operationId : String
  method : String
  path : String
  summary : Option String
  fields : List RequestField
  classification : Classification
deriving DecidableEq, Repr

structure Handler where
  name : String
  requestName : String
  operationId : String
  classification : Classification
deriving DecidableEq, Repr

inductive RuleCheck where
  | notEmpty
  | minLength (count : Nat)
  | maxLength (count : Nat)
  | minimum (bound : Float)
  | maximum (bound : Float)
  | minItems (count : Nat)
  | maxItems (count : Nat)
  | pattern (text : String)
deriving Repr

structure Rule where
  fieldName : String
  name : String
  /-- The condition holds of an absent value. -/
  optional : Bool
  check : RuleCheck
deriving Repr

structure Validator where
  name : String
  dtoName : String
  rules : List Rule
deriving Repr

structure Plan where
  dtos : List Dto
  validators : List Validator
  requests : List Request
  handlers : List Handler
deriving Repr

namespace Plan

def dto? (plan : Plan) (name : String) : Option Dto := plan.dtos.find? (·.name == name)

def request? (plan : Plan) (name : String) : Option Request :=
  plan.requests.find? (·.name == name)

def artifactCount (plan : Plan) : Nat :=
  plan.dtos.length + plan.validators.length + plan.requests.length + plan.handlers.length

end Plan

def requestName (kind : RequestKind) (operationId : String) : String :=
  match kind with
  | .command => Naming.commandName operationId
  | .query => Naming.queryName operationId

/-- The field of a parameter behind other fields; where its own name is taken, its location is
added to it. -/
def parameterField (fields : List RequestField) (parameter : Parameter) : RequestField :=
  let plain := Naming.fieldName parameter.name
  { name := parameter.name
    fieldName :=
      if fields.any (·.fieldName == plain) then plain ++ "_" ++ parameter.location.text else plain
    type := parameter.type.toDto
    required := parameter.required
    location := some parameter.location }

def bodyField (fields : List RequestField) (body : RequestBody) : RequestField :=
  { name := "body"
    fieldName := if fields.any (·.fieldName == "body") then "request_body" else "body"
    type := body.type.toDto
    required := body.required
    location := none }

def parameterFields (fields : List RequestField) : List Parameter → List RequestField
  | [] => fields
  | parameter :: rest => parameterFields (fields ++ [parameterField fields parameter]) rest

def requestFields (operation : Operation) : List RequestField :=
  let fields := parameterFields [] operation.parameters
  fields ++ operation.requestBody.toList.map (bodyField fields)

def Request.ofOperation (operation : Operation) : Request :=
  let classification := Classification.of operation.method operation.response
  { kind := classification.kind
    name := requestName classification.kind operation.operationId
    operationId := operation.operationId
    method := operation.method.text
    path := operation.path
    summary := operation.summary
    fields := requestFields operation
    classification }

def Handler.ofRequest (request : Request) : Handler :=
  { name := Naming.handlerName request.name
    requestName := request.name
    operationId := request.operationId
    classification := request.classification }

def TypeExpr.isNumeric : TypeExpr → Bool
  | .scalar .integer | .scalar .long | .scalar .float | .scalar .double => true
  | _ => false

def TypeExpr.isArray : TypeExpr → Bool
  | .array _ => true
  | _ => false

def DtoProperty.checks (property : DtoProperty) : List RuleCheck :=
  let limits := property.constraints
  let isText := property.type == .scalar .string
  let isArray := property.type.isArray
  let filled := property.required && !property.nullable && (isText || isArray)
  (if filled then [.notEmpty] else []) ++
  (if isText then
    limits.minLength.toList.map .minLength ++ limits.maxLength.toList.map .maxLength ++
      property.pattern.toList.map .pattern
  else []) ++
  (if property.type.isNumeric then
    limits.minimum.toList.map .minimum ++ limits.maximum.toList.map .maximum
  else []) ++
  (if isArray then
    limits.minItems.toList.map .minItems ++ limits.maxItems.toList.map .maxItems
  else [])

def DtoProperty.rules (property : DtoProperty) : List Rule :=
  property.checks.map fun check =>
    { fieldName := property.fieldName
      name := property.name
      optional := property.isOptional
      check }

def Dto.validator? (dto : Dto) : Option Validator :=
  if dto.isEnum then none
  else some
    { name := Naming.validatorName dto.name
      dtoName := dto.name
      rules := dto.properties.flatMap DtoProperty.rules }

def clash? (earlier : List (String × String)) : List (String × String) →
    Option (String × String × String)
  | [] => none
  | (key, owner) :: rest =>
    match earlier.find? (·.1 == key) with
    | some (_, first) => some (key, first, owner)
    | none => clash? ((key, owner) :: earlier) rest

def distinct (entries : List (String × String)) : Except GenerationError Unit :=
  match clash? [] entries with
  | none => .ok ()
  | some (key, first, second) => .error (.namingCollision key first second)

def distinctStems (names : List String) : Except GenerationError Unit :=
  distinct (names.map fun name => (Naming.fileStem name, name))

def validatorsOf (enabled : Bool) (dtos : List Dto) : List Validator :=
  if enabled then dtos.filterMap Dto.validator? else []

/-- The plan of a document. Clashing request names are found first, then references to models
that do not exist, then clashing files. -/
def Document.plan (document : Document) (options : PlanOptions) : Except GenerationError Plan := do
  let requests := document.operations.map Request.ofOperation
  distinct (requests.map fun request => (request.name, request.operationId))
  let closure ← document.closure options.includeAllModels
  let validators := validatorsOf options.validators closure.dtos
  let handlers := requests.map Handler.ofRequest
  distinctStems (closure.dtos.map (·.name))
  distinctStems (validators.map (·.name))
  distinctStems (requests.map (·.name))
  distinctStems (handlers.map (·.name))
  return { dtos := closure.dtos, validators, requests, handlers }

end ApiContracts
