import ApiContracts.Proofs.Plan.Instructions

/-!
Clashes of names are found exactly: a plan is refused for one just if two artifacts clash, the
error names the two, and what is left goes to different files.
-/

namespace ApiContracts

open Naming

namespace Document

/-- Two different entries both derive `name`: two operations as the name of their request, or two
artifacts of one list as the stem of their file. -/
inductive Clashes (document : Document) (options : PlanOptions) (name first second : String) :
    Prop
  | requestNames : Clash Request.name Request.operationId document.requests name first second →
      Clashes document options name first second
  | dtoFiles {closure : Closure} : document.closure options.includeAllModels = .ok closure →
      Clash (fun dto => fileStem dto.name) Dto.name closure.dtos name first second →
      Clashes document options name first second
  | validatorFiles {closure : Closure} : document.closure options.includeAllModels = .ok closure →
      Clash (fun validator => fileStem validator.name) Validator.name
        (validatorsOf options.validators closure.dtos) name first second →
      Clashes document options name first second
  | requestFiles : Clash (fun request => fileStem request.name) Request.name
        document.requests name first second →
      Clashes document options name first second
  | handlerFiles : Clash (fun handler => fileStem handler.name) Handler.name
        (document.requests.map Handler.ofRequest) name first second →
      Clashes document options name first second

theorem plan_error_clashes {document : Document} {options : PlanOptions}
    {name first second : String}
    (failed : document.plan options = .error (.namingCollision name first second)) :
    document.Clashes options name first second := by
  rw [Document.plan] at failed
  simp only [bind_error_iff, pure, Except.pure, reduceCtorEq, and_false, exists_false,
    or_false] at failed
  rcases failed with clash | ⟨_, _, broken | ⟨closure, built, rest⟩⟩
  · exact .requestNames (distinct_clash clash)
  · obtain ⟨reference, unknown, _⟩ := closure_error broken
    simp [Closure.unknownModel] at unknown
  · rcases rest with clash | ⟨_, _, clash | ⟨_, _, clash | ⟨_, _, clash⟩⟩⟩
    · exact .dtoFiles built (distinctStems_clash clash)
    · exact .validatorFiles built (distinctStems_clash clash)
    · exact .requestFiles (distinctStems_clash clash)
    · exact .handlerFiles (distinctStems_clash clash)

end Document

def Instruction.Apart (first second : Instruction) : Prop :=
  fileName first.name ≠ fileName second.name

theorem Instruction.apart_of_stems {α : Type} {entries : List α} {name : α → String}
    (make : α → Instruction) (named : ∀ entry, (make entry).name = name entry)
    (distinct : DistinctStems (entries.map name)) :
    (entries.map make).Pairwise Instruction.Apart := by
  rw [DistinctStems, List.map_map, List.Nodup, List.pairwise_map] at distinct
  rw [List.pairwise_map]
  refine distinct.imp fun {first second} different same => different ?_
  rw [named, named] at same
  exact fileName_inj same

theorem Instruction.apart_append {layout : Layout} {front back : List Instruction}
    (fits : ∀ instruction ∈ front ++ back, instruction.Fits layout)
    (kinds : ∀ first ∈ front, ∀ second ∈ back, first.kind ≠ second.kind)
    (frontApart : front.Pairwise Instruction.Apart) (backApart : back.Pairwise Instruction.Apart) :
    (front ++ back).Pairwise Instruction.Apart := by
  rw [List.pairwise_append]
  refine ⟨frontApart, backApart, ?_⟩
  intro first isFirst second isSecond same
  have firstEnding := fileName_ending (fits first (List.mem_append_left _ isFirst)).marked
  have secondEnding := fileName_ending (fits second (List.mem_append_right _ isSecond)).marked
  rw [← same] at secondEnding
  exact kinds first isFirst second isSecond
    (ArtifactKind.eq_of_fileEndings firstEnding secondEnding)

theorem Instruction.Fits.fileName? {layout : Layout} {instruction : Instruction}
    (fits : instruction.Fits layout) (plain : '/' ∉ instruction.name.toList) :
    Path.fileName? instruction.path = some (fileName instruction.name).toList := by
  rw [fits.path_eq]
  exact Path.fileName?_eq_some (layout.pathFor_pieces plain)
    (ArtifactKind.isName_of_fileEnding (fileName_ending fits.marked))

namespace Document

theorem Plannable.apart {document : Document} {options : PlanOptions} {closure : Closure}
    (plannable : document.Plannable options closure) (layout : Layout) :
    ((document.planOf options closure).instructions layout).Pairwise Instruction.Apart := by
  have sorted := document.instructions_perm options closure layout
  have fits : ∀ instruction ∈ document.sortedInstructions options closure layout,
      instruction.Fits layout :=
    fun instruction member => plannable.fits layout (sorted.mem_iff.mpr member)
  have handlerStems : DistinctStems
      (document.requests.map fun request => (Handler.ofRequest request).name) := by
    simpa [planOf, Function.comp_def] using plannable.handlerStems
  rw [sorted.pairwise_iff fun different => different.symm]
  refine Instruction.apart_append fits (by simp [or_imp, forall_and])
    (Instruction.apart_of_stems _ (fun _ => rfl) plannable.dtoStems) ?_
  replace fits := fun instruction member => fits instruction (List.mem_append_right _ member)
  refine Instruction.apart_append fits (by simp [or_imp, forall_and])
    (Instruction.apart_of_stems _ (fun _ => rfl) plannable.validatorStems) ?_
  replace fits := fun instruction member => fits instruction (List.mem_append_right _ member)
  exact Instruction.apart_append fits (by simp)
    (Instruction.apart_of_stems _ (fun _ => rfl) plannable.requestStems)
    (Instruction.apart_of_stems _ (fun _ => rfl) handlerStems)

/-- A plan is made just if the request names of a document differ, its closure is built and the
file stems in each list of artifacts differ. An error about a clash names two entries that do
clash. And where no model has a slash in its name, all files of a plan are different ones, even
by their names alone, wherever the settings put them. -/
theorem plan_collisions (document : Document) (options : PlanOptions) :
    ((∃ plan, document.plan options = .ok plan) ↔
      ∃ closure, document.Plannable options closure) ∧
    (∀ name first second, document.plan options = .error (.namingCollision name first second) →
      document.Clashes options name first second) ∧
    ((∀ model ∈ document.models, '/' ∉ model.name.toList) →
      ∀ (config : Config) (output : String) (instructions : List Instruction),
        document.instructions config output = .ok instructions →
          instructions.Pairwise fun first second => first.path ≠ second.path ∧
            Path.fileName? first.path ≠ Path.fileName? second.path) := by
  refine ⟨?_, fun name first second => plan_error_clashes, ?_⟩
  · constructor
    · rintro ⟨plan, planned⟩
      obtain ⟨closure, plannable, _⟩ := (plan_eq_ok_iff document options plan).mp planned
      exact ⟨closure, plannable⟩
    · rintro ⟨closure, plannable⟩
      exact ⟨_, (plan_eq_ok_iff document options _).mpr ⟨closure, plannable, rfl⟩⟩
  · intro plain config output instructions made
    obtain ⟨closure, plannable, rfl⟩ := (instructions_eq_ok_iff _ _ _ _).mp made
    refine (plannable.apart (config.layout output)).imp_of_mem ?_
    intro first second isFirst isSecond apart
    have firstName := (plannable.fits _ isFirst).fileName? (plannable.name_plain plain _ isFirst)
    have secondName := (plannable.fits _ isSecond).fileName? (plannable.name_plain plain _ isSecond)
    have different : Path.fileName? first.path ≠ Path.fileName? second.path := by
      rw [firstName, secondName]
      intro same
      exact apart (String.toList_inj.mp (Option.some.inj same))
    exact ⟨fun same => different (by rw [same]), different⟩

def crowdedClinic : Document :=
  { clinic with
    operations := clinic.operations ++
      [⟨"add.pet", ⟨"PUT"⟩, "/pets", none, [], [], none, .void⟩] }

theorem clinic_collisions :
    (∃ closure, clinic.Plannable ⟨true, false⟩ closure) ∧
      crowdedClinic.Clashes ⟨true, false⟩ "AddPetCommand" "addPet" "add.pet" ∧
      ∃ instructions, clinic.instructions clinicConfig "out" = .ok instructions ∧
        instructions.Pairwise fun first second => first.path ≠ second.path ∧
          Path.fileName? first.path ≠ Path.fileName? second.path := by
  have crowded : distinct (crowdedClinic.operations.map fun operation =>
      ((Request.ofOperation operation).name, operation.operationId)) =
        .error (.namingCollision "AddPetCommand" "addPet" "add.pet") := by
    decide +kernel
  have failed : crowdedClinic.plan ⟨true, false⟩ =
      .error (.namingCollision "AddPetCommand" "addPet" "add.pet") := by
    rw [Document.plan, bind_error_iff, List.map_map]
    exact .inl crowded
  obtain ⟨plan, planned⟩ := clinic_planned
  obtain ⟨instructions, made⟩ := clinic_instructions
  have plain : ∀ model ∈ clinic.models, '/' ∉ model.name.toList := by decide
  exact ⟨(plan_collisions clinic _).1.mp ⟨plan, planned⟩,
    (plan_collisions crowdedClinic _).2.1 _ _ _ failed,
    instructions, made, (plan_collisions clinic ⟨true, false⟩).2.2 plain _ _ _ made⟩

end Document

end ApiContracts
