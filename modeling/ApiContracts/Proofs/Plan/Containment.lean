import ApiContracts.Proofs.Plan.SelfContained
import ApiContracts.Proofs.Source.Containment

/-!
Texts of a document keep to their places in the files of its plan: they are what the literals
denote, or they stay in comments, and no other token depends on them. The operation id and the path
of a request need to be texts without a double quote, a backslash or a carriage return for that.
-/

namespace ApiContracts

open Closure Lexical

namespace Naming

theorem quiet_of_dtoName {name : String} (quiet : Quiet (dtoName name)) : Quiet name := by
  rw [dtoName] at quiet
  split at quiet
  · exact quiet
  · rw [Quiet, String.toList_append] at quiet
    exact (List.forall_mem_append.mp quiet).1

end Naming

theorem TypeExpr.toDto_quiet {type : TypeExpr} (quiet : ∀ name ∈ type.references, Quiet name) :
    ∀ name ∈ type.toDto.references, Quiet name := by
  induction type with
  | scalar s => simp [toDto, references]
  | reference name =>
      simp only [references, List.forall_mem_singleton] at quiet
      simpa [toDto, references] using Naming.dtoName_quiet quiet
  | array element ih => exact ih quiet
  | map key value _ ih =>
      rw [references, List.forall_mem_append] at quiet
      rw [toDto, references, List.forall_mem_append]
      exact ⟨quiet.1, ih quiet.2⟩

theorem DtoProperty.fieldType_quiet {property : DtoProperty}
    (quiet : ∀ name ∈ property.type.references, Quiet name) : Quiet property.fieldType := by
  have type := TypeExpr.render_quiet quiet
  have base : Quiet (if property.boxed then "Box<" ++ property.type.render ++ ">"
      else property.type.render) := by
    split
    · exact quiet_append (quiet_append (by decide) type) (by decide)
    · exact type
  rw [fieldType]
  split
  · exact quiet_append (quiet_append (by decide) base) (by decide)
  · exact base

theorem RequestField.fieldType_quiet {field : RequestField}
    (quiet : ∀ name ∈ field.type.references, Quiet name) : Quiet field.fieldType := by
  have type := TypeExpr.render_quiet quiet
  rw [fieldType]
  split
  · exact type
  · exact quiet_append (quiet_append (by decide) type) (by decide)

theorem parameterField_quiet (fields : List RequestField) (parameter : Parameter) :
    Quiet (parameterField fields parameter).fieldName := by
  have plain := Naming.fieldName_quiet parameter.name
  have location : Quiet parameter.location.text := by cases parameter.location <;> decide
  rw [parameterField]
  dsimp only
  split
  · exact quiet_append (quiet_append plain (by decide)) location
  · exact plain

theorem mem_parameterFields {fields : List RequestField} {parameters : List Parameter}
    {field : RequestField} (member : field ∈ parameterFields fields parameters) :
    field ∈ fields ∨ Quiet field.fieldName ∧ ∃ parameter ∈ parameters, field.name = parameter.name := by
  induction parameters generalizing fields with
  | nil => exact .inl member
  | cons parameter rest ih =>
      rcases ih member with before | ⟨quiet, other, isOther, named⟩
      · rcases List.mem_append.mp before with before | here
        · exact .inl before
        · obtain rfl := List.mem_singleton.mp here
          exact .inr ⟨parameterField_quiet fields parameter, parameter, List.mem_cons_self, rfl⟩
      · exact .inr ⟨quiet, other, List.mem_cons_of_mem _ isOther, named⟩

theorem requestField_names {operation : Operation} {field : RequestField}
    (member : field ∈ requestFields operation) :
    Quiet field.fieldName ∧
      (field.name = "body" ∨ ∃ parameter ∈ operation.parameters, field.name = parameter.name) := by
  rw [requestFields, List.mem_append] at member
  rcases member with isParameter | isBody
  · rcases mem_parameterFields isParameter with fromNothing | ⟨quiet, named⟩
    · simp at fromNothing
    · exact ⟨quiet, .inr named⟩
  · obtain ⟨body, _, rfl⟩ := List.mem_map.mp isBody
    refine ⟨?_, .inl rfl⟩
    rw [bodyField]
    dsimp only
    split <;> decide

theorem imports_quiet {path : String} (pathQuiet : Quiet path) {types : List TypeExpr}
    (quiet : ∀ type ∈ types, ∀ name ∈ type.references, Quiet name) (own : List String) :
    ∀ line ∈ imports path types own, Quiet line := by
  rw [imports, List.forall_mem_append]
  constructor
  · split <;> decide +kernel
  · refine List.forall_mem_map.mpr fun name member => ?_
    rw [mem_sortedNames, List.mem_filter, List.mem_flatMap] at member
    obtain ⟨⟨type, isType, mentioned⟩, _⟩ := member
    have nameQuiet := quiet type isType name mentioned
    have stem := Naming.fileStem_quiet nameQuiet
    exact quiet_append (quiet_append (quiet_append (quiet_append
      (quiet_append (by decide) pathQuiet) stem) (by decide)) nameQuiet) (by decide)

theorem Closure.Gathered.quiet_of_contains {models : List Model} {findings : List Finding}
    {closure : Closure} (gathered : Gathered models findings closure)
    (quiet : ∀ model ∈ models, Quiet model.name) {name : String}
    (there : closure.contains (Naming.dtoName name) = true) : Quiet name := by
  obtain ⟨finding, isFinding, same⟩ := List.mem_map.mp ((gathered.contains_iff _).mp there)
  obtain ⟨isModel, named⟩ := standsFor_of_lookup (gathered.found finding isFinding)
  have found : Quiet finding.1 := by
    rcases named with named | ⟨_, _, named⟩
    · rw [← named]
      exact quiet _ isModel
    · rw [← named]
      exact quiet_append (quiet _ isModel) (by decide)
  apply Naming.quiet_of_dtoName
  rw [← same]
  exact Naming.dtoName_quiet found

namespace Document

/-- Names of models can stand in code, and what is written into comments as it is stays on a line.
-/
structure Safe (document : Document) : Prop where
  models : ∀ model ∈ document.models, Quiet model.name
  operationIds : ∀ operation ∈ document.operations, '\n' ∉ operation.operationId.toList
  paths : ∀ operation ∈ document.operations, '\n' ∉ operation.path.toList
  methods : ∀ operation ∈ document.operations, ∀ c ∈ operation.method.text.toList,
    isTokenChar c = true
  parameters : ∀ operation ∈ document.operations, ∀ parameter ∈ operation.parameters,
    '\n' ∉ parameter.name.toList

theorem bare_of_token {text : String} (token : ∀ c ∈ text.toList, isTokenChar c = true) :
    Bare text := by
  intro c member
  rw [isBare_iff]
  refine ⟨?_, ?_, ?_⟩
  · rintro rfl
    exact absurd (token _ member) (by decide)
  · rintro rfl
    exact absurd (token _ member) (by decide)
  · rintro rfl
    exact absurd (token _ member) (by decide)

variable {document : Document} {includeAllModels : Bool} {findings : List Finding}
  {closure : Closure}

theorem Complete.model_references_quiet
    (complete : document.Complete includeAllModels findings closure) (safe : document.Safe)
    {finding : Finding} (isFinding : finding ∈ findings) {source : Property}
    (isSource : source ∈ finding.2.properties) :
    ∀ name ∈ source.type.references, Quiet name := by
  intro name mentioned
  apply complete.gathered.quiet_of_contains safe.models
  exact complete.closed finding isFinding name
    ⟨source, isSource, (source.type.mem_references_iff name).mp mentioned⟩

theorem Complete.root_references_quiet
    (complete : document.Complete includeAllModels findings closure) (safe : document.Safe)
    {operation : Operation} (isOperation : operation ∈ document.operations)
    {root : String × TypeExpr} (isRoot : root ∈ operation.roots) :
    ∀ name ∈ root.2.references, Quiet name := by
  intro name mentioned
  apply complete.gathered.quiet_of_contains safe.models
  apply complete.seeds
  exact .inl ⟨operation, isOperation, (operation.mentions_iff name).mpr
    ⟨root, isRoot, (root.2.mem_references_iff name).mp mentioned⟩⟩

theorem Complete.property_quiet (complete : document.Complete includeAllModels findings closure)
    (safe : document.Safe) {dto : Dto} (isDto : dto ∈ closure.dtos) {property : DtoProperty}
    (isProperty : property ∈ dto.properties) :
    Quiet property.fieldName ∧ ∀ name ∈ property.type.references, Quiet name := by
  obtain ⟨finding, isFinding, source, isSource, made⟩ :=
    complete.gathered.property_origin isDto isProperty
  simp only [DtoProperty.ofProperty, DtoProperty.mk.injEq] at made
  obtain ⟨_, fieldName, type, _⟩ := made
  rw [← fieldName, ← type]
  exact ⟨Naming.fieldName_quiet source.name,
    TypeExpr.toDto_quiet (complete.model_references_quiet safe isFinding isSource)⟩

theorem Complete.dto_tame (complete : document.Complete includeAllModels findings closure)
    (safe : document.Safe) {dto : Dto} (isDto : dto ∈ closure.dtos) : dto.Tame := by
  obtain ⟨finding, isFinding, same⟩ := complete.gathered.origin isDto
  obtain ⟨isModel, _⟩ := standsFor_of_lookup (complete.gathered.found finding isFinding)
  have modelQuiet := safe.models _ isModel
  have name : Naming.dtoName finding.2.name = dto.name := congrArg Dto.name same
  have source : finding.2.name = dto.sourceModel := congrArg Dto.sourceModel same
  have properties (property : DtoProperty) (isProperty : property ∈ dto.properties) :=
    complete.property_quiet safe isDto isProperty
  -- All that the file has in code comes from names of models or is cleaned of other characters.
  refine ⟨source ▸ modelQuiet.oneLine, name ▸ Naming.dtoName_quiet modelQuiet, ?_, ?_⟩
  · exact imports_quiet (by decide)
      (List.forall_mem_map.mpr fun property isProperty => (properties property isProperty).2) _
  · intro property isProperty
    obtain ⟨fieldName, references⟩ := properties property isProperty
    exact ⟨fieldName, DtoProperty.fieldType_quiet references⟩

theorem Complete.validator_tame (complete : document.Complete includeAllModels findings closure)
    (safe : document.Safe) {enabled : Bool} {validator : Validator}
    (isValidator : validator ∈ validatorsOf enabled closure.dtos) : validator.Tame := by
  rw [validatorsOf] at isValidator
  split at isValidator
  · obtain ⟨dto, isDto, made⟩ := List.mem_filterMap.mp isValidator
    rw [Dto.validator?] at made
    split at made
    · simp at made
    · obtain rfl := Option.some.inj made
      have dtoTame := complete.dto_tame safe isDto
      refine ⟨quiet_append dtoTame.name (by decide), dtoTame.name, ?_⟩
      intro rule isRule
      obtain ⟨property, isProperty, isRule⟩ := List.mem_flatMap.mp isRule
      obtain ⟨check, _, rfl⟩ := List.mem_map.mp isRule
      exact (dtoTame.fields property isProperty).1
  · simp at isValidator

theorem Complete.result_quiet (complete : document.Complete includeAllModels findings closure)
    (safe : document.Safe) {operation : Operation} (isOperation : operation ∈ document.operations) :
    ∀ name ∈ (resultType operation.method operation.response).references, Quiet name := by
  rw [resultType]
  split
  next type declared =>
      have root : (operation.operationId, type) ∈ operation.roots := by
        simp [Operation.roots, declared]
      exact complete.root_references_quiet safe isOperation root
  next => split <;> simp [TypeExpr.references]

theorem Complete.request_tame (complete : document.Complete includeAllModels findings closure)
    (safe : document.Safe) {operation : Operation} (isOperation : operation ∈ document.operations) :
    (Request.ofOperation operation).Tame := by
  have result := complete.result_quiet safe isOperation
  have dtoResult := TypeExpr.toDto_quiet result
  have types : ∀ field ∈ requestFields operation, ∀ name ∈ field.type.references, Quiet name := by
    intro field isField
    obtain ⟨root, isRoot, same⟩ := requestField_type isField
    rw [← same]
    exact TypeExpr.toDto_quiet (complete.root_references_quiet safe isOperation isRoot)
  constructor
  · exact safe.operationIds operation isOperation
  · exact fun member => absurd (safe.methods operation isOperation _ member) (by decide)
  · exact bare_of_token (safe.methods operation isOperation)
  · exact safe.paths operation isOperation
  · exact requestName_quiet _ _
  · exact imports_quiet (by decide)
      (List.forall_mem_cons.mpr ⟨dtoResult, List.forall_mem_map.mpr types⟩) _
  · intro field isField
    obtain ⟨fieldName, named⟩ := requestField_names isField
    refine ⟨?_, fieldName, RequestField.fieldType_quiet (types field isField)⟩
    rcases named with named | ⟨parameter, isParameter, named⟩
    · rw [named]
      decide
    · rw [named]
      exact safe.parameters operation isOperation parameter isParameter
  · exact TypeExpr.render_quiet result
  · exact TypeExpr.render_quiet dtoResult

theorem Complete.handler_tame (complete : document.Complete includeAllModels findings closure)
    (safe : document.Safe) {contractModule : String} (quiet : Quiet contractModule)
    {operation : Operation} (isOperation : operation ∈ document.operations) :
    (Handler.ofRequest (Request.ofOperation operation)).Tame contractModule := by
  have request := complete.request_tame safe isOperation
  constructor
  · exact quiet_append request.name (by decide)
  · have bare : Bare (Request.ofOperation operation).name := fun c member =>
      isBare_of_continues (requestName_continues _ _ c member)
    exact bare_append bare (by decide)
  · exact request.name
  · have folder (kind : RequestKind) : Quiet (ArtifactKind.ofRequest kind).folder := by
      cases kind <;> decide
    exact quiet_append (quiet_append (quiet_append (quiet_append quiet (by decide)) (folder _))
      (by decide)) (Naming.fileStem_quiet request.name)
  · exact request.result
  · exact request.dtoResult

theorem Plannable.subjects_tame {options : PlanOptions}
    (plannable : document.Plannable options closure) (safe : document.Safe) {layout : Layout}
    (quiet : Quiet layout.contractModule) {instruction : Instruction}
    (member : instruction ∈ (document.planOf options closure).instructions layout) :
    instruction.kind = instruction.subject.kind ∧ instruction.subject.Tame := by
  obtain ⟨findings, complete⟩ := closure_complete plannable.built
  rw [(document.instructions_perm options closure layout).mem_iff] at member
  simp only [sortedInstructions, List.mem_append, List.mem_map] at member
  rcases member with ⟨dto, isDto, rfl⟩ | ⟨validator, isValidator, rfl⟩ |
    ⟨request, isRequest, rfl⟩ | ⟨request, isRequest, rfl⟩
  · exact ⟨rfl, complete.dto_tame safe isDto⟩
  · exact ⟨rfl, complete.validator_tame safe isValidator⟩
  · obtain ⟨operation, isOperation, rfl⟩ := List.mem_map.mp isRequest
    exact ⟨rfl, complete.request_tame safe isOperation⟩
  · obtain ⟨operation, isOperation, rfl⟩ := List.mem_map.mp isRequest
    exact ⟨rfl, complete.handler_tame safe quiet isOperation⟩

structure Yields (document : Document) (config : Config) (output : String)
    (instructions : List Instruction) : Prop where
  planned : document.instructions config output = .ok instructions
  safe : document.Safe
  contractModule : Quiet (config.layout output).contractModule

theorem Yields.tame_subject {config : Config} {output : String} {instructions : List Instruction}
    (yields : document.Yields config output instructions) {instruction : Instruction}
    (member : instruction ∈ instructions) :
    instruction.kind = instruction.subject.kind ∧ instruction.subject.Tame := by
  obtain ⟨closure, plannable, rfl⟩ := (instructions_eq_ok_iff _ _ _ _).mp yields.planned
  exact plannable.subjects_tame yields.safe yields.contractModule member

/-- The files of a safe document hold its texts where they belong. The literals of a file denote
just the texts that it is to carry if and only if its request, if it is one, has an operation id and
a path that need no escapes. Two such files, of the same document or of two, that agree in the
names, types and checks of their code are the same code: what their literals denote and what their
comments say changes no other token. -/
theorem sources_contained {config : Config} {output : String} {instructions : List Instruction}
    (yields : document.Yields config output instructions) :
    (∀ instruction ∈ instructions,
      (∃ pieces, instruction.ReadsAs pieces ∧ literals pieces = instruction.subject.texts) ↔
        instruction.subject.Bare) ∧
    ∀ (second : Document) (secondConfig : Config) (secondOutput : String)
      (others : List Instruction), second.Yields secondConfig secondOutput others →
      ∀ instruction ∈ instructions, ∀ other ∈ others,
        instruction.subject.Bare → other.subject.Bare →
        instruction.subject.code = other.subject.code →
        ∃ pieces otherPieces, instruction.ReadsAs pieces ∧ other.ReadsAs otherPieces ∧
          skeleton pieces = skeleton otherPieces := by
  constructor
  · intro instruction member
    obtain ⟨fits, tame⟩ := yields.tame_subject member
    simp only [Instruction.readsAs_iff fits]
    exact Subject.carries_iff tame
  · intro second secondConfig secondOutput others secondYields instruction member other isOther bare
      otherBare same
    obtain ⟨fits, tame⟩ := yields.tame_subject member
    obtain ⟨otherFits, otherTame⟩ := secondYields.tame_subject isOther
    obtain ⟨pieces, otherPieces, reads, otherReads, _, _, sameCode⟩ :=
      Subject.alike tame otherTame bare otherBare same
    exact ⟨pieces, otherPieces, (Instruction.readsAs_iff fits).mpr reads,
      (Instruction.readsAs_iff otherFits).mpr otherReads, sameCode⟩

def openGate (path : String) (summary : Option String) : Operation :=
  ⟨"open", ⟨"GET"⟩, path, summary, [], [], none, .single (.scalar .bool)⟩

def gate (path : String) (summary : Option String) : Document :=
  ⟨"Gate", "1", [openGate path summary], []⟩

def gateQuery (path : String) (summary : Option String) : Instruction :=
  .ofRequest (Config.standard.layout "out") (.ofOperation (openGate path summary))

theorem gate_safe {path : String} (oneLine : '\n' ∉ path.toList) (summary : Option String) :
    (gate path summary).Safe := by
  have operationId : '\n' ∉ "open".toList := by decide
  have method : ∀ c ∈ "GET".toList, isTokenChar c = true :=
    List.all_eq_true.mp (by decide)
  constructor
  · simp [gate]
  · exact List.forall_mem_singleton.mpr operationId
  · exact List.forall_mem_singleton.mpr oneLine
  · exact List.forall_mem_singleton.mpr method
  · simp [gate, openGate]

theorem gate_yields (path : String) (oneLine : '\n' ∉ path.toList) (summary : Option String) :
    ∃ instructions, (gate path summary).Yields .standard "out" instructions ∧
      gateQuery path summary ∈ instructions := by
  have roots : (gate path summary).roots false = [("open", .scalar .bool)] := rfl
  have built : (gate path summary).closure false = .ok .empty := by
    simp [closure, roots, expandAll, expand, TypeExpr.references, follow, boxRecursive,
      Closure.empty]
  have plannable : (gate path summary).Plannable Config.standard.planOptions .empty :=
    ⟨List.nodup_singleton _, built, List.nodup_nil, List.nodup_nil, List.nodup_singleton _,
      List.nodup_singleton _⟩
  have planned := (instructions_eq_ok_iff _ _ "out" _).mpr ⟨_, plannable, rfl⟩
  refine ⟨_, ⟨planned, gate_safe oneLine summary, by decide⟩, ?_⟩
  rw [(instructions_perm _ _ _ _).mem_iff]
  simp [sortedInstructions, requests, gate, gateQuery]

theorem gates_contained :
    ∃ instructions others,
      (gate "/gate" none).Yields .standard "out" instructions ∧
      (gate "/doors" (some "Is it?\nNo\"; // \x7b")).Yields .standard "out" others ∧
      gateQuery "/gate" none ∈ instructions ∧
      gateQuery "/doors" (some "Is it?\nNo\"; // \x7b") ∈ others ∧
      (∃ pieces, (gateQuery "/gate" none).ReadsAs pieces ∧
        literals pieces = ["open", "GET", "/gate"]) ∧
      ∃ pieces otherPieces, (gateQuery "/gate" none).ReadsAs pieces ∧
        (gateQuery "/doors" (some "Is it?\nNo\"; // \x7b")).ReadsAs otherPieces ∧
        skeleton pieces = skeleton otherPieces := by
  obtain ⟨instructions, yields, member⟩ := gate_yields "/gate" (by decide) none
  obtain ⟨others, otherYields, isOther⟩ :=
    gate_yields "/doors" (by decide) (some "Is it?\nNo\"; // \x7b")
  have bare : (gateQuery "/gate" none).subject.Bare := ⟨by decide, by decide⟩
  have otherBare : (gateQuery "/doors" (some "Is it?\nNo\"; // \x7b")).subject.Bare :=
    ⟨by decide, by decide⟩
  have contained := sources_contained yields
  exact ⟨instructions, others, yields, otherYields, member, isOther,
    (contained.1 _ member).mpr bare,
    contained.2 _ _ _ _ otherYields _ member _ isOther bare otherBare rfl⟩

def openPath : String := "/gate\"; pub const OPEN: bool = true; //"

def openRequest : Request := .ofOperation (openGate openPath none)

theorem openRequest_constants :
    ∃ pieces, Reads openRequest.constants pieces ∧ literals pieces = ["open", "GET", "/gate"] ∧
      .word "OPEN:".toList ∈ pieces := by
  have found : (run (.code []) (written openRequest.constants)).any (fun reached =>
      reached.2 = .code [] ∧ literals reached.1 = ["open", "GET", "/gate"] ∧
        .word "OPEN:".toList ∈ reached.1) = true := by
    decide +kernel
  simp only [Option.any_eq_true, decide_eq_true_eq] at found
  obtain ⟨⟨pieces, _⟩, reads, rfl, same, word⟩ := found
  exact ⟨pieces, reads, same, word⟩

/-- With this path the query is planned, and part of the path is read as code. -/
theorem openPath_escapes :
    ∃ instructions, (gate openPath none).Yields .standard "out" instructions ∧
      gateQuery openPath none ∈ instructions ∧
      (gateQuery openPath none).subject.texts = ["open", "GET", openPath] ∧
      (∃ pieces, (gateQuery openPath none).ReadsAs pieces ∧
        literals pieces = ["open", "GET", "/gate"] ∧ .word "OPEN:".toList ∈ pieces) ∧
      ¬ ∃ pieces, (gateQuery openPath none).ReadsAs pieces ∧
        literals pieces = (gateQuery openPath none).subject.texts := by
  obtain ⟨instructions, yields, member⟩ := gate_yields openPath (by decide) none
  obtain ⟨fits, tame⟩ := yields.tame_subject member
  have tame : openRequest.Tame := tame
  refine ⟨instructions, yields, member, rfl, ?_, ?_⟩
  · obtain ⟨front, readsFront, noneFront⟩ := (Request.openingLines_alike tame tame rfl
      (by decide : '\n' ∉ "Read-only query".toList)).carries
    obtain ⟨back, readsBack, noneBack⟩ := (Request.resultLines_alike tame tame rfl rfl).carries
    obtain ⟨pieces, reads, same, word⟩ := openRequest_constants
    have noTexts : openRequest.writtenFields.flatMap WrittenField.texts = [] := rfl
    refine ⟨front ++ (pieces ++ back), ?_, ?_, ?_⟩
    · rw [Instruction.readsAs_iff fits]
      change Reads (openRequest.sourceWith "Read-only query" []) _
      rw [Request.sourceWith_eq]
      exact readsFront.append (reads.append readsBack)
    · simp [noneFront, noTexts, same, noneBack]
    · exact List.mem_append_right _ (List.mem_append_left _ word)
  · simp only [Instruction.readsAs_iff fits]
    intro carries
    have bare := ((Request.carries_iff tame).mp carries).path
    exact absurd bare (by decide)

end Document

end ApiContracts
