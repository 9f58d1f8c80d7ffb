import ApiContracts.Method
import ApiContracts.Types.TypeExpr

/-!
Schema documents: what an API description says about its models and operations, in the terms
that contracts are planned in.
-/

namespace ApiContracts

structure Constraints where
  minLength : Option Nat
  maxLength : Option Nat
  minimum : Option Float
  maximum : Option Float
  minItems : Option Nat
  maxItems : Option Nat
deriving Repr

namespace Constraints

def none : Constraints := ⟨.none, .none, .none, .none, .none, .none⟩

def isEmpty (limits : Constraints) : Bool :=
  limits.minLength.isNone && limits.maxLength.isNone && limits.minimum.isNone &&
    limits.maximum.isNone && limits.minItems.isNone && limits.maxItems.isNone

end Constraints

structure Property where
  name : String
  type : TypeExpr
  required : Bool
  nullable : Bool
  description : Option String
  constraints : Constraints
  /-- The pattern as the schema has it, delimiters included. -/
  pattern : Option String
deriving Repr

structure Model where
  name : String
  description : Option String
  properties : List Property
  enumValues : List String
deriving Repr

def Model.isEnum (model : Model) : Bool := !model.enumValues.isEmpty

inductive ParameterLocation where
  | path | query | header | cookie
deriving DecidableEq, Repr

namespace ParameterLocation

def text : ParameterLocation → String
  | path => "path"
  | query => "query"
  | header => "header"
  | cookie => "cookie"

def ofText? : String → Option ParameterLocation
  | "path" => some path
  | "query" => some query
  | "header" => some header
  | "cookie" => some cookie
  | _ => none

end ParameterLocation

structure Parameter where
  name : String
  location : ParameterLocation
  required : Bool
  type : TypeExpr
deriving DecidableEq, Repr

structure RequestBody where
  type : TypeExpr
  required : Bool
deriving DecidableEq, Repr

inductive ResponseShape where
  | void
  | single (type : TypeExpr)
  | array (element : TypeExpr)
  | map (key value : TypeExpr)
  | primitive (scalar : Scalar)
deriving DecidableEq, Repr

namespace ResponseShape

def ofType : TypeExpr → ResponseShape
  | .scalar .unit => void
  | .scalar s => primitive s
  | .reference name => single (.reference name)
  | .array element => array element
  | .map key value => map key value

def declaredType? : ResponseShape → Option TypeExpr
  | void => none
  | single type => some type
  | array element => some (.array element)
  | map key value => some (.map key value)
  | primitive s => some (.scalar s)

end ResponseShape

structure Operation where
  operationId : String
  method : Method
  path : String
  summary : Option String
  tags : List String
  parameters : List Parameter
  requestBody : Option RequestBody
  response : ResponseShape
deriving Repr

structure Document where
  title : String
  version : String
  operations : List Operation
  /-- The models by name, each name once and in ascending order. -/
  models : List Model
deriving Repr

namespace Document

def slug (document : Document) : String := Naming.slug document.title

def model? (document : Document) (name : String) : Option Model :=
  document.models.find? (·.name == name)

def empty (title : String) : Document := ⟨title, "", [], []⟩

end Document

/-- Puts a model at its place in an ascending list; it replaces one of the same name. -/
def insertModel (model : Model) : List Model → List Model
  | [] => [model]
  | first :: rest =>
    if model.name == first.name then model :: rest
    else if model.name < first.name then model :: first :: rest
    else first :: insertModel model rest

end ApiContracts
