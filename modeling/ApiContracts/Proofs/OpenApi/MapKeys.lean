import ApiContracts.Proofs.OpenApi.Acceptance
import ApiContracts.Proofs.OpenApi.Merging
import ApiContracts.Proofs.OpenApi.Places
import ApiContracts.Proofs.OpenApi.Typing
import ApiContracts.Proofs.Plan.SelfContained

/-!
Keys of maps: where the types of an accepted description come from its schemas, each map has a
scalar for its key. Only a declared result may have another.
-/

namespace ApiContracts.OpenApi

theorem hasScalarKeys_formed : Formed fun type => type.hasScalarKeys = true where
  scalar _ _ := rfl
  reference _ := rfl
  array _ inner := inner
  map _ inner := inner

theorem typeOf_scalarKeys (schemas : Schemas) (schema : Schema) :
    (typeOf schemas schema).type.hasScalarKeys = true :=
  hasScalarKeys_formed.typing schemas _ schema

theorem collect_origin {schemas : Schemas} {budget : Nat} {schema : Schema}
    {found : List Property} {property : Property}
    (member : property ∈ collect schemas budget schema found) :
    property ∈ found ∨
      ∃ name inner required, propertyOf schemas name inner required = property := by
  rw [collect_eq, putAll_eq] at member
  rcases mem_putAllBy member with added | there
  · obtain ⟨keywords, _, declared⟩ := List.mem_flatMap.mp added
    obtain ⟨⟨name, inner⟩, _, made⟩ := List.mem_map.mp declared
    exact .inr ⟨name, inner, _, made⟩
  · exact .inl there

theorem modelsOf_scalarKeys {schemas : Schemas} {model : Model} (isModel : model ∈ modelsOf schemas)
    {property : Property} (isProperty : property ∈ model.properties) :
    property.type.hasScalarKeys = true := by
  obtain ⟨⟨name, schema⟩, _, rfl⟩ := List.mem_map.mp isModel
  cases schema with
  | always value => simp [modelOf] at isProperty
  | reference path description => simp [modelOf] at isProperty
  | object keywords =>
      simp only [modelOf] at isProperty
      split at isProperty
      · obtain fromNothing | ⟨_, inner, _, rfl⟩ := collect_origin isProperty
        · simp at fromNothing
        · rw [propertyOf_type]
          exact typeOf_scalarKeys schemas inner
      · simp at isProperty

theorem mem_mergeParameters {inherited own : List Parameter} {parameter : Parameter}
    (member : parameter ∈ mergeParameters inherited own) :
    parameter ∈ inherited ∨ parameter ∈ own := by
  rw [mergeParameters_eq] at member
  exact (mem_putAllBy member).symm

theorem resolvedParameters_scalarKeys {description : Description}
    {parameters : List (OrReference ParameterObject)} {parameter : Parameter}
    (member : parameter ∈ resolvedParameters description parameters) :
    parameter.type.hasScalarKeys = true := by
  obtain ⟨source, _, rfl⟩ := List.mem_map.mp member
  rw [parameterOf]
  split
  · exact typeOf_scalarKeys _ _
  · rfl

theorem requestBodyOf_scalarKeys {schemas : Schemas} {operation : OperationObject}
    {body : RequestBody} (described : requestBodyOf schemas operation = some body) :
    body.type.hasScalarKeys = true := by
  rw [requestBodyOf] at described
  split at described
  · obtain ⟨schema, _, rfl⟩ := Option.map_eq_some_iff.mp described
    exact typeOf_scalarKeys schemas schema
  · simp at described

theorem declaredType?_ofType (type : TypeExpr) :
    (ResponseShape.ofType type).declaredType? =
      if type = .scalar .unit then none else some type := by
  cases type with
  | scalar s => cases s <;> rfl
  | reference name => rfl
  | array element => rfl
  | map key value => rfl

def AnswersScalarKeys (answer : ResponseShape) : Prop :=
  ∀ type, answer.declaredType? = some type → type.hasScalarKeys = true

theorem answersScalarKeys_ofType (type : TypeExpr) :
    AnswersScalarKeys (.ofType type) ↔ type.hasScalarKeys = true := by
  rw [AnswersScalarKeys, declaredType?_ofType]
  split
  next unit => simp [unit, TypeExpr.hasScalarKeys]
  next => simp

theorem responseShape_scalarKeys (schemas : Schemas) (operation : OperationObject) :
    AnswersScalarKeys (responseShape schemas operation) := by
  rw [responseShape]
  split
  · rw [answersScalarKeys_ofType]
    exact typeOf_scalarKeys _ _
  · simp [AnswersScalarKeys, ResponseShape.declaredType?]

theorem answerOf_scalarKeys_iff {description : Description} {operation : OperationObject}
    {answer : ResponseShape} (answered : answerOf description operation = .ok answer) :
    AnswersScalarKeys answer ↔ ∀ text type, operation.returnType = some text →
      TypeExpr.parse (isModelName description.schemas) text = .ok type →
      type.hasScalarKeys = true := by
  rw [answerOf] at answered
  split at answered
  next undeclared =>
      obtain rfl := Except.ok.inj answered
      simp [undeclared, responseShape_scalarKeys]
  next text declared =>
      split at answered
      next type parsed =>
          obtain rfl := Except.ok.inj answered
          rw [answersScalarKeys_ofType]
          constructor
          · intro scalarKeys other another same reparsed
            obtain rfl := Option.some.inj (declared.symm.trans same)
            obtain rfl := Except.ok.inj (parsed.symm.trans reparsed)
            exact scalarKeys
          · exact fun all => all text type declared parsed
      next => simp at answered

/-- In the document of an accepted description all map keys of models, parameters and bodies are
scalars. Those of an answer are as well, just if the operation declares no type with another key. -/
theorem document_scalarKeys {description : Description} {document : Document}
    (accepted : OpenApi.document description = .ok document) :
    (∀ model ∈ document.models, ∀ property ∈ model.properties,
      property.type.hasScalarKeys = true) ∧
    (∀ operation ∈ document.operations,
      (∀ parameter ∈ operation.parameters, parameter.type.hasScalarKeys = true) ∧
      ∀ body, operation.requestBody = some body → body.type.hasScalarKeys = true) ∧
    ∀ pair ∈ (entries description).zip document.operations,
      AnswersScalarKeys pair.2.response ↔
        ∀ text type, pair.1.2.2.2.returnType = some text →
          TypeExpr.parse (isModelName description.schemas) text = .ok type →
          type.hasScalarKeys = true := by
  obtain ⟨models, described⟩ := document_describes accepted
  refine ⟨?_, ?_, ?_⟩
  · intro model isModel property isProperty
    rw [models] at isModel
    exact modelsOf_scalarKeys isModel isProperty
  · intro operation isOperation
    obtain ⟨entry, _, describes⟩ := exists_entry described isOperation
    obtain ⟨path, verb, item, source⟩ := entry
    rw [← describes.same]
    refine ⟨?_, fun body given => requestBodyOf_scalarKeys given⟩
    intro parameter isParameter
    rcases mem_mergeParameters isParameter with inherited | own
    · exact resolvedParameters_scalarKeys inherited
    · exact resolvedParameters_scalarKeys own
  · rintro ⟨entry, operation⟩ isPair
    have describes := List.forall₂_zip described isPair
    exact answerOf_scalarKeys_iff describes.answered

def kennel : Description :=
  let map (values : Schema) : Schema :=
    .object { Keywords.ofWord "object" with additionalProperties := some values }
  let notes : Schema := map (.object (.ofWord "string"))
  let pets : Schema := map (.reference (schemaRefStart ++ "Pet") none)
  { title := "Kennel", version := "1"
    paths :=
      [readPath "/counts" { OperationObject.ofId "countPets" with
          returnType := some "HashMap<Pet, i32>" },
        readPath "/owners" { OperationObject.ofId "petsOfOwners" with
          parameters := [.inline ⟨"notes", .query, none, some notes⟩]
          requestBody := some (.inline ⟨jsonContent pets, none⟩)
          responses := [("200", .inline ⟨jsonContent pets⟩)] }]
    schemas :=
      [("Pet", .object { Keywords.ofWord "object" with properties := [("notes", notes)] })]
    parameters := [] }

theorem kennel_scalarKeys : ∃ document, OpenApi.document kennel = .ok document ∧
    (∀ model ∈ document.models, ∀ property ∈ model.properties,
      property.type.hasScalarKeys = true) ∧
    (∀ operation ∈ document.operations,
      (∀ parameter ∈ operation.parameters, parameter.type.hasScalarKeys = true) ∧
      ∀ body, operation.requestBody = some body → body.type.hasScalarKeys = true) ∧
    ∀ pair ∈ (entries kennel).zip document.operations,
      AnswersScalarKeys pair.2.response ↔
        ∀ text type, pair.1.2.2.2.returnType = some text →
          TypeExpr.parse (isModelName kennel.schemas) text = .ok type →
          type.hasScalarKeys = true := by
  have made : (OpenApi.document kennel).isOk = true := by decide +kernel
  obtain ⟨document, accepted⟩ := exists_of_isOk made
  exact ⟨document, accepted, document_scalarKeys accepted⟩

/-- A result is accepted that is declared with a model for the key of a map. -/
theorem kennel_modelKey : ∃ document, OpenApi.document kennel = .ok document ∧
    (∃ operation ∈ document.operations,
      operation.response = .map (.reference "Pet") (.scalar .integer)) ∧
    ¬document.ScalarKeys := by
  have made : (OpenApi.document kennel).isOk = true := by decide +kernel
  have answers : answers? kennel = some [.map (.reference "Pet") (.scalar .integer),
      .map (.scalar .string) (.reference "Pet")] := by decide +kernel
  obtain ⟨document, accepted⟩ := exists_of_isOk made
  rw [answers?, accepted] at answers
  obtain ⟨first, _, operations, response, _⟩ :=
    List.map_eq_cons_iff.mp (Option.some.inj answers)
  have isFirst : first ∈ document.operations := by simp [operations]
  refine ⟨document, accepted, ⟨first, isFirst, response⟩, ?_⟩
  intro scalarKeys
  have isRoot : (first.operationId, .map (.reference "Pet") (.scalar .integer)) ∈ first.roots := by
    simp [Operation.roots, response, ResponseShape.declaredType?]
  have scalar := scalarKeys.operations first isFirst _ isRoot
  simp [TypeExpr.hasScalarKeys, TypeExpr.isScalar] at scalar

end ApiContracts.OpenApi
