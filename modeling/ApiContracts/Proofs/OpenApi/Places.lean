import ApiContracts.Proofs.OpenApi.Acceptance

/-!
The schemas that the types of properties, parameters, bodies and answers are read from.
-/

namespace ApiContracts.OpenApi

def bodySchema? (operation : OperationObject) : Option Schema :=
  match operation.requestBody with
  | some (.inline body) => jsonSchema? body.content
  | _ => none

def successSchema? (operation : OperationObject) : Option Schema :=
  ((successes operation.responses).mergeSort fun a b => codeBefore a.1 b.1).findSome?
    fun (_, response) => jsonSchema? response.content

theorem propertyOf_type (schemas : Schemas) (name : String) (schema : Schema) (required : Bool) :
    (propertyOf schemas name schema required).type = (typeOf schemas schema).type := by
  cases schema <;> rfl

theorem parameterOf_type {schemas : Schemas} {parameter : ParameterObject} {schema : Schema}
    (described : parameter.schema = some schema) :
    (parameterOf schemas parameter).type = (typeOf schemas schema).type := by
  simp [parameterOf, described]

theorem requestBodyOf_type (schemas : Schemas) (operation : OperationObject) :
    (requestBodyOf schemas operation).map (·.type) =
      (bodySchema? operation).map fun schema => (typeOf schemas schema).type := by
  rw [requestBodyOf, bodySchema?]
  match operation.requestBody with
  | none => rfl
  | some (.reference path) => rfl
  | some (.inline body) => exact Option.map_map ..

theorem responseShape_eq (schemas : Schemas) (operation : OperationObject) :
    responseShape schemas operation =
      match successSchema? operation with
      | some schema => .ofType (typeOf schemas schema).type
      | none => .void := rfl

end ApiContracts.OpenApi
