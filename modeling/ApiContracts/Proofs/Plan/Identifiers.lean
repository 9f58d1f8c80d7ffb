import ApiContracts.Proofs.Plan.Coverage
import ApiContracts.Proofs.Plan.Instructions
import ApiContracts.Proofs.Text.Identifier

/-!
Which names of a plan are identifiers. Names of requests and handlers are cleaned of all else, and
names of DTOs and validators keep what stands in the names of models; no name is made to start with
a letter.
-/

namespace ApiContracts

open Text

namespace Naming

def LetterFirst (text : String) : Prop :=
  ∀ c ∈ text.toList.find? isAsciiAlphanumeric, isAsciiDigit c = false

instance (text : String) : Decidable (LetterFirst text) :=
  decidable_of_iff ((text.toList.find? isAsciiAlphanumeric).all (!isAsciiDigit ·) = true)
    (by simp [LetterFirst, Option.all_eq_true])

theorem find?_clean (text : List Char) :
    (clean text).find? isAsciiAlphanumeric = text.find? isAsciiAlphanumeric := by
  induction text with
  | nil => rfl
  | cons c rest ih =>
      rw [clean] at ih
      rw [clean, List.map_cons, List.find?_cons, List.find?_cons, ih]
      cases letter : isAsciiAlphanumeric c with
      | true => simp [letter]
      | false => rfl

theorem pascalCase_begins_iff (text : String) :
    BeginsIdentifier (pascalCase text).toList ↔ LetterFirst text := by
  have continues := clean_continues text.toList
  have head := pascal_head? continues
  rw [find?_clean] at head
  rw [pascalCase, String.toList_ofList, LetterFirst]
  -- The head of the Pascal case is in upper case, which neither makes a digit nor takes one away.
  have upperDigit : ∀ c ∈ text.toList.find? isAsciiAlphanumeric,
      isAsciiDigit c.toUpper = isAsciiDigit c := by
    intro c found
    have letter : isAsciiAlphanumeric c = true := List.find?_some found
    have isChar : continuesIdentifier c = true := by simp [continuesIdentifier, letter]
    exact (IdentifierChar.of_continues isChar).upperDigit
  constructor
  · rintro ⟨_, start⟩ c found
    rw [← upperDigit c found]
    apply start
    rw [head, Option.mem_def.mp found]
    rfl
  · intro letterFirst
    refine ⟨pascal_continues continues, ?_⟩
    intro d first
    rw [head] at first
    obtain ⟨c, found, rfl⟩ := Option.map_eq_some_iff.mp first
    rw [upperDigit c found]
    exact letterFirst c found

theorem dtoName_isIdentifier_iff (modelName : String) :
    isIdentifier (dtoName modelName) = true ↔ BeginsIdentifier modelName.toList := by
  rw [dtoName]
  split
  next suffixed =>
      rw [isIdentifier_iff]
      exact and_iff_right (ne_empty_of_isDtoName suffixed)
  next => exact isIdentifier_append_iff modelName (by decide)

end Naming

theorem requestName_isIdentifier_iff (kind : RequestKind) (operationId : String) :
    isIdentifier (requestName kind operationId) = true ↔ Naming.LetterFirst operationId := by
  rw [← Naming.pascalCase_begins_iff]
  cases kind with
  | command => exact isIdentifier_append_iff (Naming.pascalCase operationId) (by decide)
  | query => exact isIdentifier_append_iff (Naming.pascalCase operationId) (by decide)

def Plan.names (plan : Plan) : List String :=
  plan.dtos.map (·.name) ++ plan.validators.map (·.name) ++ plan.requests.map (·.name) ++
    plan.handlers.map (·.name)

namespace Document

/-- All names of a plan are identifiers just if identifiers can begin with the name of every model
that has a DTO, and the first letter or digit of each operation id is a letter. -/
theorem plan_identifiers_iff {document : Document} {options : PlanOptions} {plan : Plan}
    (planned : document.plan options = .ok plan) :
    (∀ name ∈ plan.names, isIdentifier name = true) ↔
      (∀ dto ∈ plan.dtos, BeginsIdentifier dto.sourceModel.toList) ∧
      ∀ operation ∈ document.operations, Naming.LetterFirst operation.operationId := by
  obtain ⟨closure, plannable, rfl⟩ := (plan_eq_ok_iff document options plan).mp planned
  obtain ⟨findings, complete⟩ := closure_complete plannable.built
  have dto_iff : ∀ dto ∈ closure.dtos,
      isIdentifier dto.name = true ↔ BeginsIdentifier dto.sourceModel.toList := by
    intro dto isDto
    rw [complete.dto_origin isDto, Naming.dtoName_isIdentifier_iff]
  have request_iff (operation : Operation) :
      isIdentifier (Request.ofOperation operation).name = true ↔
        Naming.LetterFirst operation.operationId :=
    requestName_isIdentifier_iff _ _
  have suffixed {name word : String} (isWord : isIdentifier word = true)
      (legal : isIdentifier name = true) : isIdentifier (name ++ word) = true :=
    (isIdentifier_append_iff name isWord).mpr ((isIdentifier_iff name).mp legal).2
  simp only [Plan.names, List.forall_mem_append, List.forall_mem_map, planOf, requests]
  constructor
  · rintro ⟨⟨⟨dtos, _⟩, legal⟩, _⟩
    refine ⟨fun dto isDto => (dto_iff dto isDto).mp (dtos dto isDto), ?_⟩
    exact fun operation isOperation => (request_iff operation).mp (legal operation isOperation)
  · rintro ⟨models, operations⟩
    have dtos : ∀ dto ∈ closure.dtos, isIdentifier dto.name = true :=
      fun dto isDto => (dto_iff dto isDto).mpr (models dto isDto)
    have legal : ∀ operation ∈ document.operations,
        isIdentifier (Request.ofOperation operation).name = true :=
      fun operation isOperation => (request_iff operation).mpr (operations operation isOperation)
    refine ⟨⟨⟨dtos, ?_⟩, legal⟩, ?_⟩
    · intro validator isValidator
      obtain ⟨dto, isDto, named⟩ := mem_validatorsOf isValidator
      rw [named]
      exact suffixed (by decide) (dtos dto isDto)
    · intro operation isOperation
      exact suffixed (by decide) (legal operation isOperation)

theorem clinic_identifiers :
    ∃ plan, clinic.plan ⟨true, false⟩ = .ok plan ∧
      ∀ name ∈ plan.names, isIdentifier name = true := by
  have sources : (clinic.plan ⟨true, false⟩).map (·.dtos.map (·.sourceModel)) =
      .ok ["Pet", "Owner", "Tag"] := by
    decide +kernel
  obtain ⟨plan, planned, same⟩ := (map_ok_iff _ _ _).mp sources
  refine ⟨plan, planned, (plan_identifiers_iff planned).mpr ⟨?_, by decide⟩⟩
  intro dto isDto
  have source : dto.sourceModel ∈ ["Pet", "Owner", "Tag"] := same ▸ List.mem_map_of_mem isDto
  have begins : ∀ name ∈ ["Pet", "Owner", "Tag"], BeginsIdentifier name.toList := by decide
  exact begins dto.sourceModel source

def isComponentKey (name : String) : Bool :=
  name != "" && name.toList.all fun c => isAsciiAlphanumeric c || ['.', '-', '_'].contains c

def locker : Document :=
  { title := "Locker"
    version := "1"
    operations := [⟨"2faLogin", ⟨"POST"⟩, "/login", none, [], [], none, .void⟩]
    models := [⟨"2fa", none, [], []⟩, ⟨"pin.code", none, [], []⟩] }

theorem locker_not_identifiers :
    (∀ model ∈ locker.models, isComponentKey model.name = true) ∧
      (∀ operation ∈ locker.operations, operation.operationId ≠ "") ∧
      ∃ plan, locker.plan ⟨true, true⟩ = .ok plan ∧
        plan.names = ["2faDto", "pin.codeDto", "2faDtoValidator", "pin.codeDtoValidator",
          "2FaLoginCommand", "2FaLoginCommandHandler"] ∧
        ∀ name ∈ plan.names, isIdentifier name = false := by
  have names : (locker.plan ⟨true, true⟩).map Plan.names =
      .ok ["2faDto", "pin.codeDto", "2faDtoValidator", "pin.codeDtoValidator",
        "2FaLoginCommand", "2FaLoginCommandHandler"] := by
    decide +kernel
  obtain ⟨plan, planned, same⟩ := (map_ok_iff _ _ _).mp names
  refine ⟨by decide, by decide, plan, planned, same, ?_⟩
  rw [same]
  decide

end Document

end ApiContracts
