import ApiContracts.Config
import ApiContracts.Contract.Source
import ApiContracts.Proofs.Closure.Document
import ApiContracts.Proofs.Naming.Mark
import ApiContracts.Proofs.Plan.Outcome
import Mathlib.Data.List.Perm.Basic

/-!
The instructions of a plan, kind by kind: where each comes from, what its name ends in, and which
of them can have a slash in their names.
-/

namespace ApiContracts

open Closure

namespace Document

def sortedInstructions (document : Document) (options : PlanOptions) (closure : Closure)
    (layout : Layout) : List Instruction :=
  closure.dtos.map (Instruction.ofDto layout) ++
    ((validatorsOf options.validators closure.dtos).map (Instruction.ofValidator layout) ++
      (document.requests.map (Instruction.ofRequest layout) ++
        document.requests.map fun request =>
          Instruction.ofHandler layout (Handler.ofRequest request)))

theorem zip_handlers (layout : Layout) (requests : List Request) :
    ((requests.zip (requests.map Handler.ofRequest)).flatMap fun (request, handler) =>
        [Instruction.ofRequest layout request, Instruction.ofHandler layout handler]) =
      requests.flatMap fun request => [Instruction.ofRequest layout request] ++
        [Instruction.ofHandler layout (Handler.ofRequest request)] := by
  induction requests with
  | nil => rfl
  | cons request rest ih => simp [ih]

theorem instructions_perm (document : Document) (options : PlanOptions) (closure : Closure)
    (layout : Layout) :
    ((document.planOf options closure).instructions layout).Perm
      (document.sortedInstructions options closure layout) := by
  simp only [Plan.instructions, planOf, sortedInstructions, List.append_assoc, zip_handlers]
  refine (List.Perm.refl _).append ((List.Perm.refl _).append ?_)
  have split := (document.requests.flatMap_append_perm
    (fun request => [Instruction.ofRequest layout request])
    (fun request => [Instruction.ofHandler layout (Handler.ofRequest request)])).symm
  simpa only [← List.map_eq_flatMap] using split

theorem instructions_eq_ok_iff (document : Document) (config : Config) (output : String)
    (instructions : List Instruction) :
    document.instructions config output = .ok instructions ↔
      ∃ closure, document.Plannable config.planOptions closure ∧
        (document.planOf config.planOptions closure).instructions (config.layout output) =
          instructions := by
  rw [Document.instructions]
  cases planned : document.plan config.planOptions with
  | error error =>
      simp only [reduceCtorEq, false_iff, not_exists, not_and]
      intro closure plannable
      have built := (plan_eq_ok_iff _ _ _).mpr ⟨closure, plannable, rfl⟩
      simp [built] at planned
  | ok plan =>
      obtain ⟨closure, plannable, rfl⟩ := (plan_eq_ok_iff _ _ _).mp planned
      simp only [Except.ok.injEq]
      constructor
      · intro same
        exact ⟨closure, plannable, same⟩
      · rintro ⟨other, again, same⟩
        obtain rfl := Except.ok.inj (plannable.built.symm.trans again.built)
        exact same

def clinicConfig : Config := { Config.standard with validators := true }

theorem clinic_instructions :
    ∃ instructions, clinic.instructions clinicConfig "out" = .ok instructions := by
  obtain ⟨plan, planned⟩ := clinic_planned
  refine ⟨plan.instructions (clinicConfig.layout "out"), ?_⟩
  rw [Document.instructions, Config.planOptions, clinicConfig, Config.standard, planned]

theorem closure_dto_name {document : Document} {includeAllModels : Bool} {closure : Closure}
    (built : document.closure includeAllModels = .ok closure) {dto : Dto}
    (member : dto ∈ closure.dtos) :
    ∃ model ∈ document.models, dto.name = Naming.dtoName model.name := by
  obtain ⟨findings, complete⟩ := closure_complete built
  obtain ⟨finding, isFinding, same⟩ := complete.gathered.origin member
  exact ⟨finding.2, (standsFor_of_lookup (complete.gathered.found finding isFinding)).1,
    (congrArg Dto.name same).symm⟩

end Document

theorem mem_validatorsOf {enabled : Bool} {dtos : List Dto} {validator : Validator}
    (member : validator ∈ validatorsOf enabled dtos) :
    ∃ dto ∈ dtos, validator.name = Naming.validatorName dto.name := by
  rw [validatorsOf] at member
  split at member
  · obtain ⟨dto, isDto, made⟩ := List.mem_filterMap.mp member
    rw [Dto.validator?] at made
    split at made
    · simp at made
    · exact ⟨dto, isDto, congrArg Validator.name (Option.some.inj made).symm⟩
  · simp at member

def Subject.kind : Subject → ArtifactKind
  | .dto _ => .dto
  | .validator _ => .validator
  | .request made => .ofRequest made.kind
  | .handler _ _ => .handler

/-- An instruction as plans make them: its name ends in the word of its kind, its file and its
policy are those of its kind, and it is a handler's only if a handler is rendered. -/
structure Instruction.Fits (layout : Layout) (instruction : Instruction) : Prop where
  marked : instruction.kind.mark <:+ instruction.name.toList
  path_eq : instruction.path = layout.pathFor instruction.kind instruction.name
  policy_eq : instruction.policy = instruction.kind.policy
  handler : instruction.kind = .handler →
    '/' ∉ instruction.name.toList ∧ ∃ text, instruction.render = .ok text

@[simp] theorem ArtifactKind.dto_ne_ofRequest (kind : RequestKind) : dto ≠ ofRequest kind := by
  cases kind <;> decide

@[simp] theorem ArtifactKind.validator_ne_ofRequest (kind : RequestKind) :
    validator ≠ ofRequest kind := by
  cases kind <;> decide

@[simp] theorem ArtifactKind.ofRequest_ne_handler (kind : RequestKind) :
    ofRequest kind ≠ handler := by
  cases kind <;> decide

theorem Request.name_marked (operation : Operation) :
    (ArtifactKind.ofRequest (Request.ofOperation operation).kind).mark <:+
      (Request.ofOperation operation).name.toList :=
  requestName_marked (Request.ofOperation operation).kind operation.operationId

theorem Request.name_plain (operation : Operation) :
    '/' ∉ (Request.ofOperation operation).name.toList :=
  requestName_plain (Request.ofOperation operation).kind operation.operationId

theorem Handler.name_plain (operation : Operation) :
    '/' ∉ (Handler.ofRequest (Request.ofOperation operation)).name.toList :=
  fun member => Request.name_plain operation (Naming.handlerName_slash member)

namespace Instruction

@[simp] theorem make_kind (layout : Layout) (kind : ArtifactKind) (name : String)
    (subject : Subject) : (make layout kind name subject).kind = kind := rfl

@[simp] theorem make_name (layout : Layout) (kind : ArtifactKind) (name : String)
    (subject : Subject) : (make layout kind name subject).name = name := rfl

theorem make_path (layout : Layout) (kind : ArtifactKind) (name : String)
    (subject : Subject) : (make layout kind name subject).path = layout.pathFor kind name := by
  rw [make]

@[simp] theorem make_subject (layout : Layout) (kind : ArtifactKind) (name : String)
    (subject : Subject) : (make layout kind name subject).subject = subject := rfl

@[simp] theorem ofDto_kind (layout : Layout) (dto : Dto) : (ofDto layout dto).kind = .dto := rfl

@[simp] theorem ofValidator_kind (layout : Layout) (validator : Validator) :
    (ofValidator layout validator).kind = .validator := rfl

@[simp] theorem ofRequest_kind (layout : Layout) (request : Request) :
    (ofRequest layout request).kind = .ofRequest request.kind := rfl

@[simp] theorem ofHandler_kind (layout : Layout) (handler : Handler) :
    (ofHandler layout handler).kind = .handler := rfl

theorem make_fits (layout : Layout) {kind : ArtifactKind} {name : String} (subject : Subject)
    (marked : kind.mark <:+ name.toList)
    (handler : kind = .handler →
      '/' ∉ name.toList ∧ ∃ text, (make layout kind name subject).render = .ok text) :
    (make layout kind name subject).Fits layout := by
  constructor
  · rwa [make_kind, make_name]
  · rw [make_kind, make_name, make_path]
  · rw [make_kind, make]
  · rwa [make_kind, make_name]

theorem ofDto_fits (layout : Layout) {dto : Dto} {modelName : String}
    (named : dto.name = Naming.dtoName modelName) : (ofDto layout dto).Fits layout := by
  rw [ofDto]
  apply make_fits
  · rw [named]
    exact Naming.dtoName_marked modelName
  · simp

theorem ofValidator_fits (layout : Layout) {validator : Validator} {dtoName : String}
    (named : validator.name = Naming.validatorName dtoName) :
    (ofValidator layout validator).Fits layout := by
  rw [ofValidator]
  apply make_fits
  · rw [named]
    exact Naming.validatorName_marked dtoName
  · simp

theorem ofRequest_fits (layout : Layout) (operation : Operation) :
    (ofRequest layout (Request.ofOperation operation)).Fits layout := by
  rw [ofRequest]
  apply make_fits _ _ (Request.name_marked operation)
  simp

theorem ofHandler_fits (layout : Layout) (operation : Operation) :
    (ofHandler layout (Handler.ofRequest (Request.ofOperation operation))).Fits layout := by
  rw [ofHandler]
  apply make_fits _ _ (Naming.handlerName_marked _)
  intro _
  exact ⟨Handler.name_plain operation, by simp [render, source?]⟩

end Instruction

namespace Document

theorem Plannable.fits {document : Document} {options : PlanOptions} {closure : Closure}
    (plannable : document.Plannable options closure) (layout : Layout) {instruction : Instruction}
    (member : instruction ∈ (document.planOf options closure).instructions layout) :
    instruction.Fits layout := by
  rw [(document.instructions_perm options closure layout).mem_iff] at member
  simp only [sortedInstructions, List.mem_append, List.mem_map] at member
  rcases member with ⟨dto, isDto, rfl⟩ | ⟨validator, isValidator, rfl⟩ |
    ⟨request, isRequest, rfl⟩ | ⟨request, isRequest, rfl⟩
  · obtain ⟨model, _, named⟩ := closure_dto_name plannable.built isDto
    exact Instruction.ofDto_fits layout named
  · obtain ⟨dto, _, named⟩ := mem_validatorsOf isValidator
    exact Instruction.ofValidator_fits layout named
  · obtain ⟨operation, _, rfl⟩ := List.mem_map.mp isRequest
    exact Instruction.ofRequest_fits layout operation
  · obtain ⟨operation, _, rfl⟩ := List.mem_map.mp isRequest
    exact Instruction.ofHandler_fits layout operation

theorem Plannable.slash_origin {document : Document} {options : PlanOptions} {closure : Closure}
    (plannable : document.Plannable options closure) {layout : Layout} {instruction : Instruction}
    (member : instruction ∈ (document.planOf options closure).instructions layout)
    (slash : '/' ∈ instruction.name.toList) :
    (instruction.kind = .dto ∨ instruction.kind = .validator) ∧
      ∃ model ∈ document.models, '/' ∈ model.name.toList := by
  have dtoOrigin : ∀ dto ∈ closure.dtos, '/' ∈ dto.name.toList →
      ∃ model ∈ document.models, '/' ∈ model.name.toList := by
    intro dto isDto inName
    obtain ⟨model, isModel, named⟩ := closure_dto_name plannable.built isDto
    rw [named] at inName
    exact ⟨model, isModel, Naming.dtoName_slash inName⟩
  rw [(document.instructions_perm options closure layout).mem_iff] at member
  simp only [sortedInstructions, List.mem_append, List.mem_map] at member
  rcases member with ⟨dto, isDto, rfl⟩ | ⟨validator, isValidator, rfl⟩ |
    ⟨request, isRequest, rfl⟩ | ⟨request, isRequest, rfl⟩
  · exact ⟨.inl rfl, dtoOrigin dto isDto slash⟩
  · obtain ⟨dto, isDto, named⟩ := mem_validatorsOf isValidator
    change '/' ∈ validator.name.toList at slash
    rw [named] at slash
    exact ⟨.inr rfl, dtoOrigin dto isDto (Naming.validatorName_slash slash)⟩
  · obtain ⟨operation, _, rfl⟩ := List.mem_map.mp isRequest
    exact absurd slash (Request.name_plain operation)
  · obtain ⟨operation, _, rfl⟩ := List.mem_map.mp isRequest
    exact absurd slash (Handler.name_plain operation)

theorem Plannable.name_plain {document : Document} {options : PlanOptions} {closure : Closure}
    (plannable : document.Plannable options closure)
    (plain : ∀ model ∈ document.models, '/' ∉ model.name.toList) (layout : Layout)
    {instruction : Instruction}
    (member : instruction ∈ (document.planOf options closure).instructions layout) :
    '/' ∉ instruction.name.toList := by
  intro slash
  obtain ⟨_, model, isModel, inModel⟩ := plannable.slash_origin member slash
  exact plain model isModel inModel

end Document

end ApiContracts
