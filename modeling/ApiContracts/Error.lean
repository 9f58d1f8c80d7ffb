import ApiContracts.Contract.Artifact
import ApiContracts.Types.Parser

/-!
Why contracts cannot be generated from a document.
-/

namespace ApiContracts

inductive Defect where
  | missingOperationId
  | duplicateOperationId (operationId previous : String)
  | invalidReturnType (text : String) (fault : TypeFault)
  | unresolvedParameter (reference : String)
deriving DecidableEq, Repr

def invalidTypeMessage (text : String) (fault : TypeFault) : String :=
  "invalid type expression '" ++ text ++ "': " ++ fault.message

namespace Defect

def label : Defect → String
  | missingOperationId => "MissingOperationId"
  | duplicateOperationId _ _ => "DuplicateOperationId"
  | invalidReturnType _ _ => "InvalidReturnType"
  | unresolvedParameter _ => "UnresolvedParameter"

def message : Defect → String
  | missingOperationId => "operationId is required to derive artifact names"
  | duplicateOperationId operationId previous =>
    "operationId '" ++ operationId ++ "' is already used at " ++ previous
  | invalidReturnType text fault => invalidTypeMessage text fault
  | unresolvedParameter reference =>
    "parameter reference '" ++ reference ++ "' cannot be resolved"

end Defect

structure Issue where
  location : String
  defect : Defect
deriving DecidableEq, Repr

def Issue.line (issue : Issue) : String :=
  "\n  [" ++ issue.defect.label ++ "] " ++ issue.location ++ ": " ++ issue.defect.message

inductive GenerationError where
  | unknownModel (model referencedBy : String)
  | namingCollision (name first second : String)
  | missingTemplate (kind : ArtifactKind)
  | invalidSchema (issues : List Issue)
  | invalidTypeExpression (text : String) (fault : TypeFault)
deriving DecidableEq, Repr

def GenerationError.message : GenerationError → String
  | .unknownModel model referencedBy =>
    "schema inconsistency: '" ++ referencedBy ++ "' references model '" ++ model ++
      "' which is not defined"
  | .namingCollision name first second =>
    "naming collision: '" ++ first ++ "' and '" ++ second ++ "' both derive '" ++ name ++ "'"
  | .missingTemplate kind => "no template available for " ++ kind.text ++ " artifacts"
  | .invalidSchema issues =>
    "schema validation failed with " ++ toString issues.length ++ " issue(s)" ++
      String.join (issues.map Issue.line)
  | .invalidTypeExpression text fault => invalidTypeMessage text fault

end ApiContracts
