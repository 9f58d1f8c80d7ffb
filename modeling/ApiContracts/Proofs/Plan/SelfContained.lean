import ApiContracts.Proofs.Closure.Document
import ApiContracts.Proofs.Plan.Outcome

/-!
A contract is self-contained: every name inside the types of a plan is that of one of its DTOs.
Three computations have to agree on those names: the walk that gathers DTOs, the rewriting of
types, and the classification of responses.
-/

namespace ApiContracts

open Closure

def TypeExpr.hasScalarKeys : TypeExpr → Bool
  | scalar _ | reference _ => true
  | array element => element.hasScalarKeys
  | map key value => key.isScalar && value.hasScalarKeys

theorem TypeExpr.references_toDto {type : TypeExpr} (scalarKeys : type.hasScalarKeys = true) :
    type.toDto.references = type.references.map Naming.dtoName := by
  induction type with
  | scalar s => rfl
  | reference name => rfl
  | array element ih =>
      rw [hasScalarKeys] at scalarKeys
      exact ih scalarKeys
  | map key value _ ih =>
      rw [hasScalarKeys, Bool.and_eq_true] at scalarKeys
      cases key with
      | scalar s => simpa [toDto, references] using ih scalarKeys.2
      | reference name => simp [isScalar] at scalarKeys
      | array element => simp [isScalar] at scalarKeys
      | map inner value => simp [isScalar] at scalarKeys

theorem TypeExpr.within_toDto_iff {type : TypeExpr} (scalarKeys : type.hasScalarKeys = true)
    (name : String) :
    (TypeExpr.reference name).Within type.toDto ↔
      ∃ source, (TypeExpr.reference source).Within type ∧ Naming.dtoName source = name := by
  simp only [← mem_references_iff, references_toDto scalarKeys, List.mem_map]

structure Document.ScalarKeys (document : Document) : Prop where
  models : ∀ model ∈ document.models, ∀ property ∈ model.properties,
    property.type.hasScalarKeys = true
  operations : ∀ operation ∈ document.operations, ∀ root ∈ operation.roots,
    root.2.hasScalarKeys = true

def Plan.DefinesOnce (plan : Plan) (name : String) : Prop :=
  plan.dtos.countP (·.name == name) = 1

/-- Every name inside the type of a DTO's property, of a request's field or of the result of a
request or handler is the name of exactly one DTO of the plan. -/
structure Plan.SelfContained (plan : Plan) : Prop where
  properties : ∀ dto ∈ plan.dtos, ∀ property ∈ dto.properties,
    ∀ name, (TypeExpr.reference name).Within property.type → plan.DefinesOnce name
  fields : ∀ request ∈ plan.requests, ∀ field ∈ request.fields,
    ∀ name, (TypeExpr.reference name).Within field.type → plan.DefinesOnce name
  results : ∀ request ∈ plan.requests, ∀ name,
    (TypeExpr.reference name).Within request.classification.dtoResponseType → plan.DefinesOnce name
  handlers : ∀ handler ∈ plan.handlers, ∀ name,
    (TypeExpr.reference name).Within handler.classification.dtoResponseType → plan.DefinesOnce name

theorem Closure.Gathered.defines_once {models : List Model} {findings : List Finding}
    {closure : Closure} {name : String} (gathered : Gathered models findings closure)
    (plain : PlainNames models) (there : closure.contains name = true) :
    closure.dtos.countP (·.name == name) = 1 := by
  have member := (gathered.contains_iff name).mp there
  have unique := gathered.distinct
  rw [← gathered.names_eq plain] at member unique
  have once : (closure.dtos.map (·.name)).count name = 1 := by
    rw [unique.count, if_pos member]
  simpa [List.count, List.countP_map, Function.comp_def] using once

theorem Closure.Gathered.property_origin {models : List Model} {findings : List Finding}
    {closure : Closure} (gathered : Gathered models findings closure) {dto : Dto}
    (isDto : dto ∈ closure.dtos) {property : DtoProperty} (member : property ∈ dto.properties) :
    ∃ finding ∈ findings, ∃ source ∈ finding.2.properties,
      DtoProperty.ofProperty source = { property with boxed := false } := by
  obtain ⟨finding, isFinding, same⟩ := gathered.origin isDto
  have origin : { property with boxed := false } ∈ (Dto.ofModel finding.2).properties := by
    rw [same]
    exact List.mem_map_of_mem member
  obtain ⟨source, isSource, made⟩ := List.mem_map.mp origin
  exact ⟨finding, isFinding, source, isSource, made⟩

theorem Closure.Gathered.property_type {models : List Model} {findings : List Finding}
    {closure : Closure} (gathered : Gathered models findings closure) {dto : Dto}
    (isDto : dto ∈ closure.dtos) {property : DtoProperty} (member : property ∈ dto.properties) :
    ∃ finding ∈ findings, ∃ source ∈ finding.2.properties, source.type.toDto = property.type := by
  obtain ⟨finding, isFinding, source, isSource, made⟩ := gathered.property_origin isDto member
  exact ⟨finding, isFinding, source, isSource, congrArg DtoProperty.type made⟩

theorem parameterFields_types (fields : List RequestField) (parameters : List Parameter) :
    (parameterFields fields parameters).map (·.type) =
      fields.map (·.type) ++ parameters.map (·.type.toDto) := by
  induction parameters generalizing fields with
  | nil => simp [parameterFields]
  | cons parameter rest ih => simp [parameterFields, ih, parameterField]

theorem requestField_type {operation : Operation} {field : RequestField}
    (member : field ∈ requestFields operation) :
    ∃ root ∈ operation.roots, root.2.toDto = field.type := by
  have typed : field.type ∈ (requestFields operation).map (·.type) := List.mem_map_of_mem member
  simp only [requestFields, List.map_append, parameterFields_types, List.map_nil, List.nil_append,
    List.mem_append, List.mem_map, Option.mem_toList] at typed
  simp only [Operation.roots, List.mem_map, List.mem_append, Option.mem_toList]
  rcases typed with ⟨parameter, isParameter, same⟩ | ⟨_, ⟨body, isBody, rfl⟩, same⟩
  · exact ⟨_, ⟨parameter.type, .inr ⟨parameter, isParameter, rfl⟩, rfl⟩, same⟩
  · exact ⟨_, ⟨body.type, .inl (.inl ⟨body, isBody, rfl⟩), rfl⟩, same⟩

theorem responseType_root {operation : Operation} {name : String}
    (mentioned : (TypeExpr.reference name).Within
      (Classification.of operation.method operation.response).dtoResponseType) :
    ∃ root ∈ operation.roots, (TypeExpr.reference name).Within root.2.toDto := by
  simp only [Classification.of, resultType] at mentioned
  split at mentioned
  next type declared =>
      refine ⟨(operation.operationId, type), ?_, mentioned⟩
      simp [Operation.roots, declared]
  next => split at mentioned <;> cases mentioned

namespace Document

theorem Complete.defines_root {document : Document} {includeAllModels : Bool}
    {findings : List Finding} {closure : Closure}
    (complete : document.Complete includeAllModels findings closure)
    (plain : PlainNames document.models) (keys : document.ScalarKeys) {operation : Operation}
    (isOperation : operation ∈ document.operations) {root : String × TypeExpr}
    (isRoot : root ∈ operation.roots) {name : String}
    (mentioned : (TypeExpr.reference name).Within root.2.toDto) :
    closure.dtos.countP (·.name == name) = 1 := by
  obtain ⟨source, inType, rfl⟩ :=
    (TypeExpr.within_toDto_iff (keys.operations operation isOperation root isRoot) name).mp mentioned
  apply complete.gathered.defines_once plain
  apply complete.seeds
  exact .inl ⟨operation, isOperation, (operation.mentions_iff source).mpr ⟨root, isRoot, inType⟩⟩

theorem Complete.defines_property {document : Document} {includeAllModels : Bool}
    {findings : List Finding} {closure : Closure}
    (complete : document.Complete includeAllModels findings closure)
    (plain : PlainNames document.models) (keys : document.ScalarKeys) {dto : Dto}
    (isDto : dto ∈ closure.dtos) {property : DtoProperty} (isProperty : property ∈ dto.properties)
    {name : String} (mentioned : (TypeExpr.reference name).Within property.type) :
    closure.dtos.countP (·.name == name) = 1 := by
  obtain ⟨finding, isFinding, source, isSource, same⟩ :=
    complete.gathered.property_type isDto isProperty
  obtain ⟨isModel, _⟩ := standsFor_of_lookup (complete.gathered.found finding isFinding)
  rw [← same, TypeExpr.within_toDto_iff (keys.models finding.2 isModel source isSource)]
    at mentioned
  obtain ⟨original, inType, rfl⟩ := mentioned
  apply complete.gathered.defines_once plain
  exact complete.closed finding isFinding original ⟨source, isSource, inType⟩

/-- Where no model is named like a DTO and map keys are scalars, a plan that is made is
self-contained. -/
theorem plan_selfContained {document : Document} {options : PlanOptions} {plan : Plan}
    (plain : PlainNames document.models) (keys : document.ScalarKeys)
    (planned : document.plan options = .ok plan) : plan.SelfContained := by
  obtain ⟨closure, plannable, rfl⟩ := (plan_eq_ok_iff document options plan).mp planned
  obtain ⟨findings, complete⟩ := closure_complete plannable.built
  constructor
  · intro dto isDto property isProperty name mentioned
    exact complete.defines_property plain keys isDto isProperty mentioned
  · intro request isRequest field isField name mentioned
    obtain ⟨operation, isOperation, rfl⟩ := List.mem_map.mp isRequest
    obtain ⟨root, isRoot, same⟩ := requestField_type isField
    rw [← same] at mentioned
    exact complete.defines_root plain keys isOperation isRoot mentioned
  · intro request isRequest name mentioned
    obtain ⟨operation, isOperation, rfl⟩ := List.mem_map.mp isRequest
    obtain ⟨root, isRoot, inRoot⟩ := responseType_root mentioned
    exact complete.defines_root plain keys isOperation isRoot inRoot
  · intro handler isHandler name mentioned
    obtain ⟨request, isRequest, rfl⟩ := List.mem_map.mp isHandler
    obtain ⟨operation, isOperation, rfl⟩ := List.mem_map.mp isRequest
    obtain ⟨root, isRoot, inRoot⟩ := responseType_root mentioned
    exact complete.defines_root plain keys isOperation isRoot inRoot

theorem clinic_selfContained :
    PlainNames clinic.models ∧ clinic.ScalarKeys ∧
      ∃ plan, clinic.plan ⟨true, false⟩ = .ok plan ∧
        plan.dtos.map (fun dto => (dto.name, dto.properties.map (·.type))) =
          [("PetDto", [.reference "OwnerDto", .reference "PetDto",
              .map (.scalar .string) (.reference "TagDto")]),
            ("OwnerDto", [.array (.reference "PetDto")]), ("TagDto", [])] ∧
        plan.SelfContained := by
  have plain : PlainNames clinic.models := by decide
  have keys : clinic.ScalarKeys := ⟨by decide, by decide⟩
  have types : (clinic.plan ⟨true, false⟩).toOption.map (fun plan =>
      plan.dtos.map fun dto => (dto.name, dto.properties.map (·.type))) =
      some [("PetDto", [.reference "OwnerDto", .reference "PetDto",
          .map (.scalar .string) (.reference "TagDto")]),
        ("OwnerDto", [.array (.reference "PetDto")]), ("TagDto", [])] := by
    decide +kernel
  obtain ⟨plan, planned⟩ := clinic_planned
  rw [planned] at types
  exact ⟨plain, keys, plan, planned, Option.some.inj types,
    plan_selfContained plain keys planned⟩

end Document

end ApiContracts
