import ApiContracts.Contract.Layout
import ApiContracts.Contract.Plan

/-!
Write instructions: one per file of a plan, in the order in which files are written.
-/

namespace ApiContracts

inductive Subject where
  | dto (dto : Dto)
  | validator (validator : Validator)
  | request (request : Request)
  | handler (handler : Handler) (contractModule : String)
deriving Repr

structure Instruction where
  kind : ArtifactKind
  name : String
  path : String
  policy : WritePolicy
  subject : Subject
deriving Repr

namespace Instruction

def make (layout : Layout) (kind : ArtifactKind) (name : String) (subject : Subject) :
    Instruction :=
  { kind, name, path := layout.pathFor kind name, policy := kind.policy, subject }

def ofDto (layout : Layout) (dto : Dto) : Instruction := make layout .dto dto.name (.dto dto)

def ofValidator (layout : Layout) (validator : Validator) : Instruction :=
  make layout .validator validator.name (.validator validator)

def ofRequest (layout : Layout) (request : Request) : Instruction :=
  make layout (.ofRequest request.kind) request.name (.request request)

def ofHandler (layout : Layout) (handler : Handler) : Instruction :=
  make layout .handler handler.name (.handler handler layout.contractModule)

end Instruction

def Plan.instructions (plan : Plan) (layout : Layout) : List Instruction :=
  plan.dtos.map (Instruction.ofDto layout) ++
  plan.validators.map (Instruction.ofValidator layout) ++
  (plan.requests.zip plan.handlers).flatMap fun (request, handler) =>
    [Instruction.ofRequest layout request, Instruction.ofHandler layout handler]

end ApiContracts
