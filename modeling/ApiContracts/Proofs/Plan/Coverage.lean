import ApiContracts.Proofs.Closure.Order

/-!
Whether a plan that is to have a DTO for each model has one. A model is passed over if another one
that derives the same DTO name was gathered before it, and then no clash is left to be found. So
every model has its DTO just if no two of them derive one DTO name.
-/

namespace ApiContracts

open Closure

theorem source_of_dtoName_eq {models : List Model} (distinct : DistinctDtoNames models)
    {model found : Model} (isModel : model ∈ models) {name : String}
    (stands : lookupModel? models name = some found)
    (same : Naming.dtoName name = Naming.dtoName model.name) : found.name = model.name := by
  obtain ⟨isFound, rfl | ⟨unnamed, nonempty, rfl⟩⟩ := standsFor_of_lookup stands
  · exact distinct found isFound model isModel same
  · have suffixed : Naming.isDtoName (found.name ++ "Dto") = true :=
      (Naming.isDtoName_iff _).mpr ⟨found.name, nonempty, rfl⟩
    rcases Naming.eq_or_suffixed_of_dtoName_eq same with
      equal | ⟨_, _, split⟩ | ⟨notSuffixed, _, _⟩
    · exact absurd equal.symm (unnamed model isModel)
    · exact Naming.append_dto_inj split
    · rw [suffixed] at notSuffixed
      contradiction

namespace Document

theorem Complete.dto_origin {document : Document} {includeAllModels : Bool}
    {findings : List Finding} {closure : Closure}
    (complete : document.Complete includeAllModels findings closure) {dto : Dto}
    (isDto : dto ∈ closure.dtos) : dto.name = Naming.dtoName dto.sourceModel := by
  obtain ⟨finding, _, same⟩ := complete.gathered.origin isDto
  have named : Naming.dtoName finding.2.name = dto.name := congrArg Dto.name same
  have source : finding.2.name = dto.sourceModel := congrArg Dto.sourceModel same
  rw [← named, source]

/-- In a plan with all models each model has a DTO just if no two models derive one DTO name. -/
theorem plan_covers_iff {document : Document} {options : PlanOptions} {plan : Plan}
    (planned : document.plan options = .ok plan) (all : options.includeAllModels = true) :
    (∀ model ∈ document.models, ∃ dto ∈ plan.dtos, dto.sourceModel = model.name) ↔
      DistinctDtoNames document.models := by
  obtain ⟨closure, plannable, rfl⟩ := (plan_eq_ok_iff document options plan).mp planned
  obtain ⟨findings, complete⟩ := closure_complete plannable.built
  constructor
  · intro covered first isFirst second isSecond same
    obtain ⟨dto, isDto, source⟩ := covered first isFirst
    obtain ⟨other, isOther, otherSource⟩ := covered second isSecond
    have names : dto.name = other.name := by
      rw [complete.dto_origin isDto, complete.dto_origin isOther, source, otherSource, same]
    -- The plan has no two DTOs of one name.
    have one : dto = other := List.inj_on_of_nodup_map plannable.names_nodup isDto isOther names
    rw [← source, one, otherSource]
  · intro distinct model isModel
    have seeded : document.Seeds options.includeAllModels model.name :=
      .inr ⟨all, model, isModel, rfl⟩
    have there := complete.seeds model.name seeded
    obtain ⟨finding, isFinding, same⟩ :=
      List.mem_map.mp ((complete.gathered.contains_iff _).mp there)
    obtain ⟨dto, isDto, unboxed⟩ := complete.gathered.exists_dto isFinding
    have source : dto.sourceModel = finding.2.name := congrArg Dto.sourceModel unboxed
    refine ⟨dto, isDto, source.trans ?_⟩
    exact source_of_dtoName_eq distinct isModel (complete.gathered.found finding isFinding) same

theorem pound_covered :
    ∃ plan, pound.plan ⟨true, true⟩ = .ok plan ∧ DistinctDtoNames pound.models ∧
      ∀ model ∈ pound.models, ∃ dto ∈ plan.dtos, dto.sourceModel = model.name := by
  have distinct : DistinctDtoNames pound.models := by decide
  have made : (pound.plan ⟨true, true⟩).isOk = true := by decide +kernel
  obtain ⟨plan, planned⟩ := exists_of_isOk made
  exact ⟨plan, planned, distinct, (plan_covers_iff planned rfl).mpr distinct⟩

def doublet : Document :=
  { title := "Doublet"
    version := "1"
    operations := []
    models := [⟨"Pet", none, [], []⟩, ⟨"PetDto", none, [], ["tame", "wild"]⟩] }

/-- The second model is passed over without a clash. -/
theorem doublet_not_covered :
    ∃ plan, doublet.plan ⟨false, true⟩ = .ok plan ∧
      ∃ model ∈ doublet.models, ∀ dto ∈ plan.dtos, dto.sourceModel ≠ model.name := by
  have sources : (doublet.plan ⟨false, true⟩).toOption.map (·.dtos.map (·.sourceModel)) =
      some ["Pet"] := by
    decide +kernel
  cases planned : doublet.plan ⟨false, true⟩ with
  | error error => simp [planned, Except.toOption] at sources
  | ok plan =>
      rw [planned] at sources
      have only : plan.dtos.map (·.sourceModel) = ["Pet"] := Option.some.inj sources
      refine ⟨plan, rfl, ⟨"PetDto", none, [], ["tame", "wild"]⟩, by simp [doublet], ?_⟩
      intro dto isDto same
      have listed : dto.sourceModel ∈ plan.dtos.map (·.sourceModel) := List.mem_map_of_mem isDto
      rw [only, same] at listed
      simp at listed

end Document

end ApiContracts
