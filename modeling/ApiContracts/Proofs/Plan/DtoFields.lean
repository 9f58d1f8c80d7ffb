import ApiContracts.Proofs.Naming.FieldName
import ApiContracts.Proofs.Plan.Outcome

/-!
When the identifiers of a DTO's fields are different. Each is read off the name of its property
alone, so they are just if no two properties of the model have the same words.
-/

namespace ApiContracts

open Closure

namespace Dto

structure FieldsOf (dto : Dto) (model : Model) : Prop where
  source : dto.sourceModel = model.name
  names : dto.properties.map (·.name) = model.properties.map (·.name)
  fieldNames : dto.properties.map (·.fieldName) =
    (model.properties.map (·.name)).map Naming.fieldName

theorem fieldsOf_of_unboxed {dto : Dto} {model : Model} (made : ofModel model = dto.unboxed) :
    dto.FieldsOf model := by
  have properties := congrArg Dto.properties made
  constructor
  · exact (congrArg Dto.sourceModel made).symm
  · have names := congrArg (List.map DtoProperty.name) properties
    simpa [unboxed, ofModel, DtoProperty.ofProperty, Function.comp_def] using names.symm
  · have fieldNames := congrArg (List.map DtoProperty.fieldName) properties
    simpa [unboxed, ofModel, DtoProperty.ofProperty, Function.comp_def] using fieldNames.symm

end Dto

namespace Document

theorem plan_dto_fields {document : Document} {options : PlanOptions} {plan : Plan}
    (planned : document.plan options = .ok plan) :
    ∀ dto ∈ plan.dtos, ∃ model ∈ document.models, dto.FieldsOf model := by
  obtain ⟨closure, plannable, rfl⟩ := (plan_eq_ok_iff document options plan).mp planned
  obtain ⟨findings, complete⟩ := closure_complete plannable.built
  intro dto isDto
  obtain ⟨finding, isFinding, made⟩ := complete.gathered.origin isDto
  have stands := standsFor_of_lookup (complete.gathered.found finding isFinding)
  exact ⟨finding.2, stands.1, Dto.fieldsOf_of_unboxed made⟩

end Document

namespace Naming

theorem fieldNames_nodup_iff (names : List String) :
    (names.map fieldName).Nodup ↔ (names.map fieldWords).Nodup := by
  simp only [List.Nodup, List.pairwise_map, ne_eq, fieldName_eq_iff]

theorem fieldNames_nodup_of_bare {names : List String}
    (bare : ∀ name ∈ names, bareIdentifier (fieldName name) = name) (distinct : names.Nodup) :
    (names.map fieldName).Nodup := by
  rw [List.Nodup, List.pairwise_map]
  apply distinct.imp_of_mem
  intro first second isFirst isSecond different same
  apply different
  rw [← bare first isFirst, ← bare second isSecond, same]

end Naming

namespace Document

/-- In a plan, each DTO has the properties of a model of the document, and the identifiers of its
fields are different just if no two of the names have the same words. Where the names are such
identifiers already it is enough that they are different. -/
theorem dto_identifiers {document : Document} {options : PlanOptions} {plan : Plan}
    (planned : document.plan options = .ok plan) :
    ∀ dto ∈ plan.dtos, ∃ model ∈ document.models, dto.FieldsOf model ∧
      ((dto.properties.map (·.fieldName)).Nodup ↔
        ((model.properties.map (·.name)).map Naming.fieldWords).Nodup) ∧
      ((∀ property ∈ model.properties,
          bareIdentifier (Naming.fieldName property.name) = property.name) →
        (model.properties.map (·.name)).Nodup → (dto.properties.map (·.fieldName)).Nodup) := by
  intro dto isDto
  obtain ⟨model, isModel, fields⟩ := plan_dto_fields planned dto isDto
  refine ⟨model, isModel, fields, ?_, ?_⟩
  · rw [fields.fieldNames, Naming.fieldNames_nodup_iff]
  · intro bare distinct
    rw [fields.fieldNames]
    exact Naming.fieldNames_nodup_of_bare (List.forall_mem_map.mpr bare) distinct

theorem clinic_dto_identifiers :
    ∃ plan, clinic.plan ⟨true, false⟩ = .ok plan ∧
      ∀ dto ∈ plan.dtos, (dto.properties.map (·.fieldName)).Nodup := by
  obtain ⟨plan, planned⟩ := clinic_planned
  refine ⟨plan, planned, ?_⟩
  intro dto isDto
  obtain ⟨model, isModel, _, distinct, _⟩ := dto_identifiers planned dto isDto
  have words : ∀ model ∈ clinic.models,
      ((model.properties.map (·.name)).map Naming.fieldWords).Nodup := by
    decide +kernel
  exact distinct.mpr (words model isModel)

def boarding : Document :=
  let property (name : String) : Property :=
    ⟨name, .scalar .long, true, false, none, .none, none⟩
  { title := "Kennel"
    version := "1"
    operations := []
    models := [⟨"Stay", none, [property "petId", property "pet_id"], []⟩] }

theorem boarding_identifiers :
    (∀ model ∈ boarding.models, (model.properties.map (·.name)).Nodup) ∧
      ∃ plan, boarding.plan ⟨true, true⟩ = .ok plan ∧
        plan.dtos.map (fun dto => dto.properties.map (·.fieldName)) = [["pet_id", "pet_id"]] ∧
        ¬∀ dto ∈ plan.dtos, (dto.properties.map (·.fieldName)).Nodup := by
  refine ⟨by decide, ?_⟩
  have names : (boarding.plan ⟨true, true⟩).map
      (fun plan => plan.dtos.map fun dto => dto.properties.map (·.fieldName)) =
        .ok [["pet_id", "pet_id"]] := by
    decide +kernel
  obtain ⟨plan, planned, same⟩ := (map_ok_iff _ _ _).mp names
  refine ⟨plan, planned, same, ?_⟩
  intro all
  have distinct := List.forall_mem_map.mpr all
  rw [same] at distinct
  exact absurd distinct (by decide)

end Document

end ApiContracts
