import ApiContracts.Contract.Instruction

/-!
Settings of the generator, and the instructions for a document under them.
-/

namespace ApiContracts

structure Config where
  validators : Bool
  includeAllModels : Bool
  splitPackaging : Bool
  generatedFolder : String
  implementationFolder : String
deriving DecidableEq, Repr

structure Overrides where
  validators : Bool
  includeAllModels : Bool
  splitPackaging : Bool
deriving DecidableEq, Repr

namespace Config

def standard : Config :=
  { validators := false
    includeAllModels := false
    splitPackaging := false
    generatedFolder := "generated"
    implementationFolder := "implementation" }

def withOverrides (config : Config) (overrides : Overrides) : Config :=
  { config with
    validators := config.validators || overrides.validators
    includeAllModels := config.includeAllModels || overrides.includeAllModels
    splitPackaging := config.splitPackaging || overrides.splitPackaging }

def planOptions (config : Config) : PlanOptions := ⟨config.validators, config.includeAllModels⟩

def layout (config : Config) (output : String) : Layout :=
  .make output config.generatedFolder config.implementationFolder config.splitPackaging

end Config

def Document.instructions (document : Document) (config : Config) (output : String) :
    Except GenerationError (List Instruction) :=
  match document.plan config.planOptions with
  | .error error => .error error
  | .ok plan => .ok (plan.instructions (config.layout output))

end ApiContracts
