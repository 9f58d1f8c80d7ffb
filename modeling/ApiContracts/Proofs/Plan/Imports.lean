import ApiContracts.Proofs.Plan.Instructions
import ApiContracts.Proofs.Source.Imports

/-!
The imports of a plan's files. The module paths that the files write and the file paths that the
layout gives are made apart from each other; they agree on every name without a slash.
-/

namespace ApiContracts

/-- What a file with values of `types` imports: `serde`, the map type exactly if one of the types
holds a map, and each of `names` once, from a module of its own under `modules`. The names are
those that the types refer to, without the file's `own`. -/
structure ImportsUsed (modules own : List String) (types : List TypeExpr) (lines : List String)
    (holdsMap : Bool) (names : List String) : Prop where
  lines_eq : importLines lines = serializerImport :: ((if holdsMap then [mapImport] else []) ++
    names.map fun name => importLine (modules ++ [Naming.fileStem name]) name)
  map_iff : holdsMap = true ↔ ∃ type ∈ types, ∃ key value, (TypeExpr.map key value).Within type
  distinct : names.Nodup
  mem_iff : ∀ name, name ∈ names ↔
    name ∉ own ∧ ∃ type ∈ types, (TypeExpr.reference name).Within type

structure Layout.Places (layout : Layout) (kind : ArtifactKind) (name folder segment : String) :
    Prop where
  single : '/' ∉ segment.toList
  path_eq : layout.pathFor kind name =
    Path.join layout.contractRoot folder ++ "/" ++ segment ++ ".rs"

theorem Layout.places_iff (layout : Layout) {kind : ArtifactKind} (contract : kind.isContract = true)
    (name : String) :
    layout.Places kind name kind.folder (Naming.fileStem name) ↔ '/' ∉ name.toList := by
  constructor
  · rintro ⟨single, _⟩ slash
    exact single ((Naming.fileStem_slash_iff name).mpr slash)
  · intro plain
    refine ⟨mt (Naming.fileStem_slash_iff name).mp plain, ?_⟩
    rw [layout.pathFor_eq_slash plain, folderFor, if_pos contract, Naming.fileName]
    simp [String.append_assoc]

theorem ArtifactKind.ofRequest_isContract (kind : RequestKind) :
    (ofRequest kind).isContract = true := by
  cases kind <;> rfl

theorem imports_used {path : String} {modules own : List String} {types : List TypeExpr}
    {lines : List String}
    (written : ∀ stem name, "use " ++ path ++ stem ++ "::" ++ name ++ ";" =
      importLine (modules ++ [stem]) name)
    (only : importLines lines = serializerImport :: imports path types own) :
    ∃ holdsMap names, ImportsUsed modules own types lines holdsMap names := by
  refine ⟨types.any (·.usesMap),
    sortedNames ((types.flatMap (·.references)).filter (!own.contains ·)), ?_, ?_, ?_, ?_⟩
  · simp only [only, imports, written]
    rfl
  · simp only [List.any_eq_true, TypeExpr.usesMap_iff]
  · exact sortedNames_nodup _
  · intro name
    rw [mem_sortedNames, List.mem_filter, List.mem_flatMap, and_comm]
    simp only [TypeExpr.mem_references_iff, Bool.not_eq_true', List.contains_eq_mem,
      decide_eq_false_iff_not]

theorem Dto.imports_used (dto : Dto) :
    ∃ holdsMap names, ImportsUsed ["super"] [dto.name] (dto.properties.map (·.type)) dto.source
      holdsMap names := by
  refine ApiContracts.imports_used ?_ dto.importLines_source
  intro stem name
  apply String.toList_inj.mp
  simp [importLine]

theorem Request.imports_used (request : Request) {lines : List String}
    (only : importLines lines = serializerImport :: request.imports) :
    ∃ holdsMap names, ImportsUsed ["super", "super", "dtos"] []
      (request.classification.dtoResponseType :: request.fields.map (·.type)) lines holdsMap
      names := by
  refine ApiContracts.imports_used ?_ only
  intro stem name
  apply String.toList_inj.mp
  simp [importLine]

theorem Instruction.ofRequest_source (layout : Layout) (request : Request) :
    ∃ lines, (ofRequest layout request).source? = some lines ∧
      importLines lines = serializerImport :: request.imports := by
  obtain ⟨command, query⟩ := request.importLines_source
  cases kind : request.kind with
  | command =>
      exact ⟨request.commandSource, by simp [source?, kind, ofRequest, ArtifactKind.ofRequest],
        command⟩
  | query =>
      exact ⟨request.querySource, by simp [source?, kind, ofRequest, ArtifactKind.ofRequest],
        query⟩

/-- Every file of the plan imports what it uses: the DTOs that its types name, the DTO of a
validator and the request of a handler. A request is imported from where its file is, and a DTO is
so exactly if its name has no slash. -/
structure Plan.ImportsMatch (plan : Plan) (layout : Layout) : Prop where
  dtos : ∀ dto ∈ plan.dtos, ∃ lines holdsMap names,
    (Instruction.ofDto layout dto).source? = some lines ∧
    ImportsUsed ["super"] [dto.name] (dto.properties.map (·.type)) lines holdsMap names
  requests : ∀ request ∈ plan.requests, ∃ lines holdsMap names,
    (Instruction.ofRequest layout request).source? = some lines ∧
    ImportsUsed ["super", "super", "dtos"] []
      (request.classification.dtoResponseType :: request.fields.map (·.type)) lines holdsMap names
  validators : ∀ validator ∈ plan.validators, ∃ lines,
    (Instruction.ofValidator layout validator).source? = some lines ∧
    importLines lines =
      [importLine ["super", "super", "dtos", Naming.fileStem validator.dtoName] validator.dtoName]
  handlers : ∀ handler ∈ plan.handlers, ∃ request ∈ plan.requests, ∃ folder segment lines,
    handler.requestName = request.name ∧
    (Instruction.ofHandler layout handler).source? = some lines ∧
    importLines lines = ["use " ++ layout.contractModule ++ "::" ++ folder ++ "::" ++ segment ++
      "::\x7b " ++ request.name ++ ", " ++ (request.name ++ "Response") ++ " \x7d;"] ∧
    layout.Places (.ofRequest request.kind) request.name folder segment
  places : ∀ name, layout.Places .dto name "dtos" (Naming.fileStem name) ↔ '/' ∉ name.toList

namespace Document

theorem plan_imports {document : Document} {options : PlanOptions} {plan : Plan}
    (planned : document.plan options = .ok plan) (layout : Layout) : plan.ImportsMatch layout := by
  obtain ⟨closure, _, rfl⟩ := (plan_eq_ok_iff document options plan).mp planned
  constructor
  · intro dto _
    obtain ⟨holdsMap, names, used⟩ := dto.imports_used
    exact ⟨dto.source, holdsMap, names, rfl, used⟩
  · intro request _
    obtain ⟨lines, rendered, only⟩ := Instruction.ofRequest_source layout request
    obtain ⟨holdsMap, names, used⟩ := request.imports_used only
    exact ⟨lines, holdsMap, names, rendered, used⟩
  · intro validator _
    refine ⟨validator.source, rfl, ?_⟩
    rw [validator.importLines_source, List.singleton_inj]
    apply String.toList_inj.mp
    simp [importLine]
  · intro handler isHandler
    obtain ⟨request, isRequest, rfl⟩ := List.mem_map.mp isHandler
    obtain ⟨operation, _, rfl⟩ := List.mem_map.mp isRequest
    refine ⟨_, isRequest, _, _, _, rfl, rfl, ?_, (layout.places_iff
      (ArtifactKind.ofRequest_isContract _) _).mpr (Request.name_plain operation)⟩
    rw [Handler.importLines_source, Handler.requestModule]
    simp only [String.append_assoc]
    rfl
  · exact layout.places_iff rfl

theorem clinic_imports :
    ∃ plan, clinic.plan ⟨true, false⟩ = .ok plan ∧
      plan.ImportsMatch (clinicConfig.layout "out") := by
  obtain ⟨plan, planned⟩ := clinic_planned
  exact ⟨plan, planned, plan_imports planned _⟩

def rooted : Document := ⟨"Rooted", "1", [], [⟨"/Pet", none, [], []⟩]⟩

theorem rooted_misplaced :
    ∃ plan, rooted.plan ⟨true, true⟩ = .ok plan ∧ ∃ validator ∈ plan.validators, ∃ lines,
      (Instruction.ofValidator (Config.standard.layout "out") validator).source? = some lines ∧
      validator.dtoName = "/PetDto" ∧
      importLines lines = [importLine ["super", "super", "dtos", "/pet_dto"] "/PetDto"] ∧
      (Config.standard.layout "out").pathFor .dto "/PetDto" = "/pet_dto.rs" ∧
      ∀ segment, ¬ (Config.standard.layout "out").Places .dto "/PetDto" "dtos" segment := by
  have validators : (rooted.plan ⟨true, true⟩).map (·.validators.map (·.dtoName)) =
      .ok ["/PetDto"] := by
    decide +kernel
  have here : (Config.standard.layout "out").pathFor .dto "/PetDto" = "/pet_dto.rs" := by
    decide +kernel
  have folder : Path.join (Config.standard.layout "out").contractRoot "dtos" =
      "out/generated/dtos" := by
    decide +kernel
  have stem : Naming.fileStem "/PetDto" = "/pet_dto" := by decide +kernel
  obtain ⟨plan, planned, same⟩ := (map_ok_iff _ _ _).mp validators
  obtain ⟨validator, only, named⟩ := List.map_eq_singleton_iff.mp same
  refine ⟨plan, planned, validator, by simp [only], validator.source, rfl, named, ?_, here, ?_⟩
  · rw [validator.importLines_source, named, stem]
    rfl
  · rintro segment ⟨_, path⟩
    rw [here, folder] at path
    have first := congrArg (·.toList.head?) path
    simp at first

end Document

end ApiContracts
