import ApiContracts.Document
import ApiContracts.Json.Basic

/-!
API descriptions: the parts of an OpenAPI document that models and operations are read from.
-/

namespace ApiContracts.OpenApi

inductive TypeKeyword where
  | one (word : String)
  | several (words : List String)
deriving DecidableEq, Repr

structure Keywords (σ : Type) where
  type : Option TypeKeyword
  format : Option String
  description : Option String
  pattern : Option String
  constraints : Constraints
  /-- The listed values; an empty list says nothing. -/
  enumeration : List Json
  required : List String
  properties : List (String × σ)
  allOf : List σ
  anyOf : List σ
  oneOf : List σ
  items : Option σ
  additionalProperties : Option σ

inductive Schema where
  | always (value : Bool)
  | reference (path : String) (description : Option String)
  | object (keywords : Keywords Schema)

inductive OrReference (α : Type) where
  | reference (path : String)
  | inline (value : α)

structure ParameterObject where
  name : String
  location : ParameterLocation
  required : Option Bool
  schema : Option Schema

structure MediaType where
  schema : Option Schema

abbrev Content := List (String × MediaType)

structure RequestBodyObject where
  content : Content
  required : Option Bool

structure ResponseObject where
  content : Content

structure OperationObject where
  operationId : Option String
  summary : Option String
  tags : List String
  parameters : List (OrReference ParameterObject)
  requestBody : Option (OrReference RequestBodyObject)
  responses : List (String × OrReference ResponseObject)
  /-- A declared result that overrides the described one. -/
  returnType : Option String

structure PathItem where
  parameters : List (OrReference ParameterObject)
  operations : List (String × OperationObject)

structure Description where
  title : String
  version : String
  paths : List (String × PathItem)
  schemas : List (String × Schema)
  parameters : List (String × OrReference ParameterObject)

end ApiContracts.OpenApi
