import ApiContracts.Contract.Artifact
import ApiContracts.Document

/-!
The role of an operation and the type of its result, from its method and response shape.
-/

namespace ApiContracts

structure Classification where
  kind : RequestKind
  responseType : TypeExpr
  dtoResponseType : TypeExpr
  isUnit : Bool
  deleteReturnsBool : Bool
  createdOnSuccess : Bool
deriving DecidableEq, Repr

def RequestKind.ofMethod (method : Method) : RequestKind :=
  if method.isVerb "GET" then .query else .command

/-- The type of a result: a void delete tells whether there was anything to delete, any other
void operation answers nothing, and all else is as declared. -/
def resultType (method : Method) (shape : ResponseShape) : TypeExpr :=
  match shape.declaredType? with
  | some type => type
  | none => if method.isVerb "DELETE" then .scalar .bool else .scalar .unit

namespace Classification

def of (method : Method) (shape : ResponseShape) : Classification :=
  let result := resultType method shape
  { kind := RequestKind.ofMethod method
    responseType := result
    dtoResponseType := result.toDto
    isUnit := result == .scalar .unit
    deleteReturnsBool := method.isVerb "DELETE" && shape == .void
    createdOnSuccess := method.isVerb "POST" }

end Classification

end ApiContracts
