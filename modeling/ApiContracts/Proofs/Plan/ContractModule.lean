import ApiContracts.Proofs.Naming.ModulePath
import ApiContracts.Proofs.Plan.Folders
import ApiContracts.Proofs.Source.Imports
import ApiContracts.Proofs.Text.Snake

/-!
The module from which handlers import the contract. Its name is the stem of the folder as a whole,
so that it is where the contract is just if the folder is a single name that snake case keeps.
-/

namespace ApiContracts

open Text Naming

def Path.names (path : String) : List String := (components path).map String.ofList

namespace Naming

theorem fileStem_isIdentifier {name : String} (identifier : isIdentifier name = true) :
    isIdentifier (fileStem name) = true := by
  obtain ⟨nonempty, continues, start⟩ := (isIdentifier_iff name).mp identifier
  rw [isIdentifier_iff, fileStem, String.toList_ofList]
  refine ⟨?_, snake_continues continues, ?_⟩
  · intro empty
    rw [String.ofList_eq_empty_iff, snake_eq_nil_iff continues] at empty
    exact nonempty (String.toList_eq_nil_iff.mp empty)
  · intro c first
    rw [snake_head? continues] at first
    obtain ⟨d, isFirst, rfl⟩ := Option.map_eq_some_iff.mp first
    rw [(CasedChar.of_continues (continues d (List.mem_of_mem_head? isFirst))).lowerDigit]
    exact start d isFirst

theorem fileStem_eq_self_iff {name : String} (identifier : isIdentifier name = true) :
    fileStem name = name ↔
      (∀ c ∈ name.toList, ¬IsCapital c) ∧ name.toList.IsChain (isMixed · · = false) := by
  have continues := ((isIdentifier_iff name).mp identifier).2.continues
  rw [← snakeRow_eq_self_iff continues, ← snake_eq_snakeRow continues, fileStem, String.ext_iff,
    String.toList_ofList]

end Naming

namespace Path

theorem isFolder_of_isName {alphabet : Alphabet} {folder : String}
    (isName : alphabet.IsModuleName folder) : IsFolder folder := by
  have noDot : '.' ∉ folder.toList := isName.lacks (by decide) (by decide) (by decide)
  refine ⟨isName.lacks (by decide) (by decide) (by decide), ?_, ?_, ?_⟩
  · cases isName with
    | plain isWord =>
        obtain ⟨first, rest, chars, _⟩ := isWord
        simp [chars]
    | raw => simp
  · intro here
    simp [here] at noDot
  · intro above
    simp [above] at noDot

theorem names_of_plain {folder : String} (plain : '/' ∉ folder.toList) (nonempty : folder ≠ "") :
    names folder = [folder] := by
  have first : folder.toList ≠ [] := fun empty => nonempty (String.toList_eq_nil_iff.mp empty)
  rw [names, components_of_pieces (pieces_plain plain)]
  simp [first, moves]

end Path

namespace Config

theorem contractModule_eq (config : Config) (output : String) :
    (config.layout output).contractModule =
      if config.splitPackaging then fileStem config.generatedFolder
      else "crate::" ++ fileStem config.generatedFolder := by
  rw [layout, Layout.make]
  split <;> rfl

/-- The path by which handlers import the contract goes from the package through the components of
the folder, and these are names. -/
structure ImportsFolder (alphabet : Alphabet) (config : Config) (output : String) : Prop where
  path : (config.layout output).contractModule =
    "::".intercalate ("crate" :: Path.names config.generatedFolder)
  names : ∀ name ∈ Path.names config.generatedFolder, alphabet.IsModuleName name

theorem mem_contractModule (config : Config) (output : String) {c : Char}
    (member : c ∈ (fileStem config.generatedFolder).toList) :
    c ∈ (config.layout output).contractModule.toList := by
  rw [contractModule_eq]
  split
  · exact member
  · simp [member]

theorem noSlash_of_isModulePath {alphabet : Alphabet} {config : Config} {output : String}
    (isPath : alphabet.IsModulePath (config.layout output).contractModule) :
    '/' ∉ config.generatedFolder.toList := by
  intro slash
  rw [← fileStem_slash_iff] at slash
  exact isPath.lacks (by decide) (by decide) (by decide) (by decide)
    (config.mem_contractModule output slash)

theorem ImportsFolder.isModulePath {alphabet : Alphabet} {config : Config} {output : String}
    (imports : config.ImportsFolder alphabet output) :
    alphabet.IsModulePath (config.layout output).contractModule :=
  ⟨["crate"], Path.names config.generatedFolder, by simp, .inl rfl, imports.names, imports.path⟩

theorem importsFolder_iff (alphabet : Alphabet) {config : Config} (output : String)
    (single : config.splitPackaging = false) :
    config.ImportsFolder alphabet output ↔
      alphabet.IsModuleName config.generatedFolder ∧
        fileStem config.generatedFolder = config.generatedFolder := by
  have path : (config.layout output).contractModule =
      "crate::" ++ fileStem config.generatedFolder := by
    simp [contractModule_eq, single]
  constructor
  · intro imports
    -- Without a slash the folder is its only component.
    have noSlash := noSlash_of_isModulePath imports.isModulePath
    obtain ⟨same, areNames⟩ := imports
    rw [path] at same
    have nonempty : config.generatedFolder ≠ "" := by
      intro empty
      rw [empty] at same
      exact absurd same (by decide +kernel)
    have only := Path.names_of_plain noSlash nonempty
    rw [only] at same areNames
    exact ⟨areNames _ List.mem_cons_self, by simpa using same⟩
  · rintro ⟨isName, stem⟩
    have isFolder := Path.isFolder_of_isName isName
    have nonempty : config.generatedFolder ≠ "" := by
      intro empty
      exact isFolder.isName.nonempty (by simp [empty])
    have only := Path.names_of_plain isFolder.plain nonempty
    constructor
    · rw [path, stem, only]
      simp
    · rw [only]
      simpa using isName

theorem isModulePath_contractModule_iff (alphabet : Alphabet) {config : Config} (output : String)
    (whole : ':' ∉ config.generatedFolder.toList) :
    alphabet.IsModulePath (config.layout output).contractModule ↔
      alphabet.IsModuleName (fileStem config.generatedFolder) ∨
        config.splitPackaging = true ∧
          fileStem config.generatedFolder ∈ ["crate", "self", "super"] := by
  have stemWhole : ':' ∉ (fileStem config.generatedFolder).toList := by
    rwa [mem_fileStem_iff (by decide) (by decide)]
  rw [contractModule_eq]
  cases config.splitPackaging with
  | false => simpa using Alphabet.isModulePath_crate_iff stemWhole
  | true => simpa using Alphabet.isModulePath_iff stemWhole

/-- Handlers import the contract by the stem of its folder. Without split packaging that path goes
through the components of the folder just if the folder is one name that is its own stem. In both
modes no folder with a slash leads to a path of a module, and one without colons does so just if its
stem is a name. The stem of an identifier is one if it is no keyword, and it is the same if there
are no capitals and no digits beside letters. -/
theorem contractModule_exact (alphabet : Alphabet) (config : Config) (output : String) :
    (∀ handler : Handler,
        (Instruction.ofHandler (config.layout output) handler).subject =
            .handler handler (config.layout output).contractModule ∧
          importLines (handler.source (config.layout output).contractModule) =
            ["use " ++ (config.layout output).contractModule ++ "::" ++
              (ArtifactKind.ofRequest handler.classification.kind).folder ++ "::" ++
              fileStem handler.requestName ++ "::\x7b " ++ handler.requestName ++ ", " ++
              (handler.requestName ++ "Response") ++ " \x7d;"]) ∧
      (config.splitPackaging = false →
        (config.ImportsFolder alphabet output ↔ alphabet.IsModuleName config.generatedFolder ∧
          fileStem config.generatedFolder = config.generatedFolder)) ∧
      (alphabet.IsModuleName config.generatedFolder →
        Path.components (config.layout output).contractRoot =
          Path.components output ++ [config.generatedFolder.toList]) ∧
      ('/' ∈ config.generatedFolder.toList →
        ¬alphabet.IsModulePath (config.layout output).contractModule) ∧
      (':' ∉ config.generatedFolder.toList →
        (alphabet.IsModulePath (config.layout output).contractModule ↔
          alphabet.IsModuleName (fileStem config.generatedFolder) ∨
            config.splitPackaging = true ∧
              fileStem config.generatedFolder ∈ ["crate", "self", "super"])) ∧
      (isIdentifier config.generatedFolder = true →
        (alphabet.IsModuleName (fileStem config.generatedFolder) ↔
            fileStem config.generatedFolder ≠ "_" ∧
              fileStem config.generatedFolder ∉ keywords) ∧
          (fileStem config.generatedFolder = config.generatedFolder ↔
            (∀ c ∈ config.generatedFolder.toList, ¬IsCapital c) ∧
              config.generatedFolder.toList.IsChain (isMixed · · = false))) := by
  refine ⟨?_, importsFolder_iff alphabet output, ?_, ?_,
    isModulePath_contractModule_iff alphabet output, ?_⟩
  · intro handler
    exact ⟨rfl, handler.importLines_source _⟩
  · intro isName
    rw [layout, Layout.make]
    split
    · exact Path.components_join_folder output (Path.isFolder_of_isName isName)
    · exact Path.components_join_folder output (Path.isFolder_of_isName isName)
  · intro slash isPath
    exact noSlash_of_isModulePath isPath slash
  · intro identifier
    exact ⟨Alphabet.isName_iff_of_isIdentifier (fileStem_isIdentifier identifier),
      fileStem_eq_self_iff identifier⟩

theorem standard_importsFolder : standard.ImportsFolder Alphabet.ascii "out" ∧
    Path.components (standard.layout "out").contractRoot = ["out".toList, "generated".toList] := by
  obtain ⟨_, reaches, below, _, _, single⟩ := contractModule_exact Alphabet.ascii standard "out"
  have stem : fileStem standard.generatedFolder = standard.generatedFolder := by decide +kernel
  have isName := (single (by decide)).1.mpr (by rw [stem]; decide)
  rw [stem] at isName
  exact ⟨(reaches rfl).mpr ⟨isName, stem⟩, below isName⟩

def nested : Config := { standard with generatedFolder := "src/generated" }

def capitalized : Config := { standard with generatedFolder := "Generated" }

theorem nested_unreachable :
    (nested.layout "out").contractRoot = "out/src/generated" ∧
      (nested.layout "out").contractModule = "crate::src/generated" ∧
      Path.names nested.generatedFolder = ["src", "generated"] ∧
      (∀ alphabet : Alphabet, ¬alphabet.IsModulePath (nested.layout "out").contractModule) ∧
      (capitalized.layout "out").contractRoot = "out/Generated" ∧
      (capitalized.layout "out").contractModule = "crate::generated" ∧
      Path.names capitalized.generatedFolder = ["Generated"] := by
  refine ⟨by decide +kernel, by decide +kernel, by decide +kernel, ?_, by decide +kernel,
    by decide +kernel, by decide +kernel⟩
  intro alphabet isPath
  exact noSlash_of_isModulePath isPath (by decide)

end Config

end ApiContracts
