import ApiContracts.Proofs.Path.Components
import ApiContracts.Proofs.Plan.Instructions

/-!
Where the files of a plan lie. Each is in the folder of its kind exactly if the name of the file,
which is derived from the artifact's name, is one step and not a path; only the name of a model
can make it one.
-/

namespace ApiContracts

structure Path.IsFolder (folder : String) : Prop where
  plain : '/' ∉ folder.toList
  isName : Path.IsName folder.toList

def Config.packageFor (config : Config) (kind : ArtifactKind) : String :=
  if config.splitPackaging && !kind.isContract then config.implementationFolder
  else config.generatedFolder

def Layout.rootFor (layout : Layout) (kind : ArtifactKind) : String :=
  if kind.isContract then layout.contractRoot else layout.implementationRoot

structure Instruction.StaysIn (layout : Layout) (instruction : Instruction) : Prop where
  relative : Path.isAbsolute instruction.path = false
  inside : ∃ last, Path.components instruction.path =
    Path.components (layout.rootFor instruction.kind) ++ [instruction.kind.folder.toList, last]

/-- The file name of an artifact is one step from the folder that it is read in. -/
structure Naming.OneStep (name : String) : Prop where
  relative : Path.isAbsolute (fileName name) = false
  single : ∃ last, Path.moves (Path.pieces (fileName name)) = [last]

namespace Path

theorem relative_of_plain {path : String} (plain : '/' ∉ path.toList) : isAbsolute path = false := by
  rw [isAbsolute, beq_eq_false_iff_ne]
  intro slash
  exact plain (List.mem_of_mem_head? slash)

theorem join_absolute {leaf : String} (absolute : isAbsolute leaf = true) (base : String) :
    join base leaf = leaf := by
  rw [isAbsolute] at absolute
  rw [join, if_pos absolute]

theorem join_relative {base leaf : String} (fromBase : isAbsolute base = false)
    (toLeaf : isAbsolute leaf = false) : isAbsolute (join base leaf) = false := by
  rw [isAbsolute] at fromBase toLeaf
  rw [join, toLeaf]
  simp only [Bool.false_eq_true, ↓reduceIte]
  split
  all_goals
    rw [isAbsolute]
    cases chars : base.toList with
    | nil => simp_all
    | cons c rest => simpa [chars] using fromBase

theorem components_join_folder (base : String) {folder : String} (isFolder : IsFolder folder) :
    components (join base folder) = components base ++ [folder.toList] := by
  have whole := pieces_plain isFolder.plain
  rw [components_join (relative_of_plain isFolder.plain), whole, moves_of_isName isFolder.isName]
  intro _
  simpa [whole] using isFolder.isName.notHere

theorem components_empty : components "" = [] := rfl

end Path

theorem ArtifactKind.folder_isFolder (kind : ArtifactKind) : Path.IsFolder kind.folder :=
  ⟨kind.folder_plain, kind.folder_isName⟩

namespace Naming

theorem fileName_isName (name : String) : Path.IsName (fileName name).toList := by
  have long : 2 < (fileName name).toList.length := by simp [fileName]
  constructor <;> intro same <;> rw [same] at long <;> simp at long

theorem OneStep.of_plain {name : String} (plain : '/' ∉ name.toList) : OneStep name := by
  have leaf : '/' ∉ (fileName name).toList := fun member => plain (fileName_slash member)
  refine ⟨Path.relative_of_plain leaf, (fileName name).toList, ?_⟩
  rw [Path.pieces_plain leaf, Path.moves_of_isName (fileName_isName name)]

end Naming

namespace Layout

theorem folderFor_components (layout : Layout) (kind : ArtifactKind) :
    Path.components (layout.folderFor kind) =
      Path.components (layout.rootFor kind) ++ [kind.folder.toList] :=
  Path.components_join_folder (layout.rootFor kind) kind.folder_isFolder

theorem pathFor_components (layout : Layout) {kind : ArtifactKind} {name : String}
    (relative : Path.isAbsolute (Naming.fileName name) = false) :
    Path.components (layout.pathFor kind name) =
      Path.components (layout.rootFor kind) ++
        kind.folder.toList :: Path.moves (Path.pieces (Naming.fileName name)) := by
  have folder := layout.folderFor_components kind
  rw [pathFor_eq_join, Path.components_join relative, folder]
  · simp
  · intro empty
    rw [empty, Path.components_empty] at folder
    simp at folder

theorem rootFor_eq (config : Config) (output : String) (kind : ArtifactKind) :
    (config.layout output).rootFor kind = Path.join output (config.packageFor kind) := by
  rw [Config.layout, make, rootFor, Config.packageFor]
  cases config.splitPackaging <;> cases kind.isContract <;> rfl

end Layout

namespace Instruction

theorem staysIn_iff {layout : Layout} {instruction : Instruction}
    (path : instruction.path = layout.pathFor instruction.kind instruction.name)
    (root : Path.isAbsolute (layout.rootFor instruction.kind) = false) :
    instruction.StaysIn layout ↔ Naming.OneStep instruction.name := by
  constructor
  · rintro ⟨relative, last, inside⟩
    rw [path] at relative inside
    -- An absolute file name takes the place of the folder.
    have toLeaf : Path.isAbsolute (Naming.fileName instruction.name) = false := by
      rw [← Bool.not_eq_true]
      intro absolute
      rw [Layout.pathFor_eq_join, Path.join_absolute absolute, absolute] at relative
      contradiction
    refine ⟨toLeaf, last, ?_⟩
    rw [layout.pathFor_components toLeaf] at inside
    simpa using inside
  · rintro ⟨toLeaf, last, single⟩
    have folder : Path.isAbsolute (layout.folderFor instruction.kind) = false :=
      Path.join_relative root (Path.relative_of_plain instruction.kind.folder_plain)
    refine ⟨?_, last, ?_⟩
    · rw [path, Layout.pathFor_eq_join]
      exact Path.join_relative folder toLeaf
    · rw [path, layout.pathFor_components toLeaf, single]

end Instruction

namespace Document

/-- Under a relative output folder and settings with plain folder names, the roots of a plan are
folders of the output folder, and an instruction's file is right inside the folder of its kind
exactly if the file name made of the artifact's name is one step. So it is for every command,
query and handler, and for all instructions where no model has a slash in its name. -/
theorem instructions_stay {document : Document} {config : Config} {output : String}
    {instructions : List Instruction}
    (made : document.instructions config output = .ok instructions)
    (relative : Path.isAbsolute output = false) (generated : Path.IsFolder config.generatedFolder)
    (implementation : Path.IsFolder config.implementationFolder) :
    (∀ kind, Path.components ((config.layout output).rootFor kind) =
      Path.components output ++ [(config.packageFor kind).toList]) ∧
    (∀ instruction ∈ instructions,
      (instruction.StaysIn (config.layout output) ↔ Naming.OneStep instruction.name) ∧
      (instruction.kind ≠ .dto → instruction.kind ≠ .validator →
        instruction.StaysIn (config.layout output))) ∧
    ((∀ model ∈ document.models, '/' ∉ model.name.toList) →
      ∀ instruction ∈ instructions, instruction.StaysIn (config.layout output)) := by
  obtain ⟨closure, plannable, rfl⟩ := (instructions_eq_ok_iff _ _ _ _).mp made
  have package (kind : ArtifactKind) : Path.IsFolder (config.packageFor kind) := by
    rw [Config.packageFor]
    split
    · exact implementation
    · exact generated
  have stays_iff : ∀ instruction ∈ (document.planOf config.planOptions closure).instructions
      (config.layout output),
      instruction.StaysIn (config.layout output) ↔ Naming.OneStep instruction.name := by
    intro instruction member
    refine Instruction.staysIn_iff (plannable.fits _ member).path_eq ?_
    rw [Layout.rootFor_eq]
    exact Path.join_relative relative (Path.relative_of_plain (package _).plain)
  refine ⟨?_, ?_, ?_⟩
  · intro kind
    rw [Layout.rootFor_eq, Path.components_join_folder output (package kind)]
  · intro instruction member
    refine ⟨stays_iff instruction member, fun notDto notValidator => ?_⟩
    refine (stays_iff instruction member).mpr (.of_plain fun slash => ?_)
    exact (plannable.slash_origin member slash).1.elim notDto notValidator
  · intro plain instruction member
    exact (stays_iff instruction member).mpr (.of_plain (plannable.name_plain plain _ member))

def splitConfig : Config := { Config.standard with validators := true, splitPackaging := true }

theorem clinic_stays :
    ∃ instructions, clinic.instructions splitConfig "./work/" = .ok instructions ∧
      Path.components ((splitConfig.layout "./work/").rootFor .handler) =
        [".".toList, "work".toList, "implementation".toList] ∧
      (∃ instruction ∈ instructions, instruction.kind = .handler ∧
        instruction.StaysIn (splitConfig.layout "./work/")) ∧
      ∀ instruction ∈ instructions, instruction.StaysIn (splitConfig.layout "./work/") := by
  obtain ⟨plan, planned⟩ := clinic_planned
  have made : clinic.instructions splitConfig "./work/" =
      .ok (plan.instructions (splitConfig.layout "./work/")) := by
    rw [Document.instructions, Config.planOptions, splitConfig, Config.standard, planned]
  obtain ⟨roots, each, all⟩ := instructions_stay made rfl
    ⟨by decide, by decide⟩ ⟨by decide, by decide⟩
  refine ⟨_, made, roots .handler, ?_, all (by decide)⟩
  obtain ⟨closure, _, rfl⟩ := (plan_eq_ok_iff _ _ _).mp planned
  let handler := Instruction.ofHandler (splitConfig.layout "./work/")
    (Handler.ofRequest (Request.ofOperation addPet))
  have member : handler ∈ (clinic.planOf ⟨true, false⟩ closure).instructions
      (splitConfig.layout "./work/") := by
    rw [(instructions_perm _ _ _ _).mem_iff]
    simp [sortedInstructions, requests, clinic, handler]
  exact ⟨handler, member, rfl, (each handler member).2 (by decide) (by decide)⟩

def stray : Document := ⟨"Stray", "1", [], [⟨"../../../Pet", none, [], []⟩]⟩

def strayConfig : Config := { Config.standard with includeAllModels := true }

theorem stray_leaves :
    ∃ instruction, stray.instructions strayConfig "out" = .ok [instruction] ∧
      Path.isAbsolute "out" = false ∧ Path.IsFolder strayConfig.generatedFolder ∧
      Path.IsFolder strayConfig.implementationFolder ∧
      instruction.path = "out/generated/dtos/../../../pet_dto.rs" ∧
      ¬ instruction.StaysIn (strayConfig.layout "out") := by
  have paths : (stray.instructions strayConfig "out").map (·.map fun instruction =>
      (instruction.kind, instruction.path)) =
        .ok [(.dto, "out/generated/dtos/../../../pet_dto.rs")] := by
    decide +kernel
  obtain ⟨instructions, made, same⟩ := (map_ok_iff _ _ _).mp paths
  obtain ⟨instruction, rfl, shown⟩ := List.map_eq_singleton_iff.mp same
  obtain ⟨kind, path⟩ := Prod.mk.inj shown
  refine ⟨instruction, made, rfl, ⟨by decide, by decide⟩, ⟨by decide, by decide⟩, path, ?_⟩
  rintro ⟨_, last, inside⟩
  -- The steps upwards stay in the path, so it has more components than the folder and one.
  have lengths := congrArg List.length inside
  rw [path, kind, List.length_append, List.length_cons, List.length_singleton] at lengths
  exact absurd lengths (by decide)

end Document

end ApiContracts
