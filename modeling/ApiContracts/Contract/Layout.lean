import ApiContracts.Contract.Artifact
import ApiContracts.Naming
import ApiContracts.Path

/-!
Where the files of artifacts go.
-/

namespace ApiContracts

structure Layout where
  contractRoot : String
  implementationRoot : String
  contractModule : String
deriving DecidableEq, Repr

namespace Layout

/-- The layout under an output folder. With split packaging handlers have a root of their own
and the contract is a package; otherwise both share one root and one package. -/
def make (output generatedFolder implementationFolder : String) (splitPackaging : Bool) :
    Layout :=
  let contractRoot := Path.join output generatedFolder
  let moduleName := Naming.fileStem generatedFolder
  if splitPackaging then
    { contractRoot
      implementationRoot := Path.join output implementationFolder
      contractModule := moduleName }
  else
    { contractRoot
      implementationRoot := contractRoot
      contractModule := "crate::" ++ moduleName }

def pathFor (layout : Layout) (kind : ArtifactKind) (name : String) : String :=
  let root := if kind.isContract then layout.contractRoot else layout.implementationRoot
  Path.join (Path.join root kind.folder) (Naming.fileStem name ++ ".rs")

end Layout

end ApiContracts
