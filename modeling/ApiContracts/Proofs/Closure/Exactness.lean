import ApiContracts.Proofs.Closure.Document

/-!
The closure of a document is exact: it is built just if every reference on its way stands for a
model, and it then holds one DTO for each model that is reached, and nothing else.
-/

namespace ApiContracts

open Closure

namespace Document

abbrev Met (document : Document) (includeAllModels : Bool) (name : String) : Prop :=
  Meets (fun name model => lookupModel? document.models name = some model)
    (document.Seeds includeAllModels) name

/-- The spellings of the names met do not matter: those that derive one DTO name find one model,
and that model derives the same DTO name. -/
structure Coherent (document : Document) (includeAllModels : Bool) : Prop where
  agree : ∀ first second, document.Met includeAllModels first →
    document.Met includeAllModels second → Naming.dtoName first = Naming.dtoName second →
    lookupModel? document.models first = lookupModel? document.models second
  named : ∀ name model, document.Met includeAllModels name →
    lookupModel? document.models name = some model →
    Naming.dtoName model.name = Naming.dtoName name

theorem Complete.finding_of_contains {document : Document} {includeAllModels : Bool}
    {findings : List Finding} {closure : Closure} {name : String}
    (complete : document.Complete includeAllModels findings closure)
    (coherent : document.Coherent includeAllModels) (met : document.Met includeAllModels name)
    (there : closure.contains (Naming.dtoName name) = true) :
    ∃ finding ∈ findings, lookupModel? document.models name = some finding.2 := by
  obtain ⟨finding, member, same⟩ :=
    List.mem_map.mp ((complete.gathered.contains_iff _).mp there)
  refine ⟨finding, member, ?_⟩
  rw [← coherent.agree finding.1 name (complete.met finding member) met same]
  exact complete.gathered.found finding member

theorem Complete.finding_of_met {document : Document} {includeAllModels : Bool}
    {findings : List Finding} {closure : Closure} {name : String}
    (complete : document.Complete includeAllModels findings closure)
    (coherent : document.Coherent includeAllModels) (met : document.Met includeAllModels name) :
    ∃ finding ∈ findings, lookupModel? document.models name = some finding.2 := by
  induction met with
  | seed isSeed =>
      exact complete.finding_of_contains coherent (.seed isSeed) (complete.seeds _ isSeed)
  | held before stands holds ih =>
      obtain ⟨finding, member, found⟩ := ih
      obtain rfl := Option.some.inj (found.symm.trans stands)
      exact complete.finding_of_contains coherent (.held before stands holds)
        (complete.closed finding member _ holds)

theorem Complete.names_eq {document : Document} {includeAllModels : Bool}
    {findings : List Finding} {closure : Closure}
    (complete : document.Complete includeAllModels findings closure)
    (coherent : document.Coherent includeAllModels) :
    (findings.map Prod.snd).map (fun model => Naming.dtoName model.name) =
      findings.map Finding.dtoName := by
  rw [List.map_map]
  apply List.map_congr_left
  intro finding member
  exact coherent.named finding.1 finding.2 (complete.met finding member)
    (complete.gathered.found finding member)

theorem Complete.models_nodup {document : Document} {includeAllModels : Bool}
    {findings : List Finding} {closure : Closure}
    (complete : document.Complete includeAllModels findings closure)
    (coherent : document.Coherent includeAllModels) : (findings.map Prod.snd).Nodup := by
  have distinct := complete.gathered.distinct
  rw [← complete.names_eq coherent, List.Nodup, List.pairwise_map] at distinct
  exact distinct.imp fun different same => different (by rw [same])

theorem Complete.mem_models_iff {document : Document} {includeAllModels : Bool}
    {findings : List Finding} {closure : Closure}
    (complete : document.Complete includeAllModels findings closure)
    (coherent : document.Coherent includeAllModels) (model : Model) :
    model ∈ findings.map Prod.snd ↔ ∃ name, document.Met includeAllModels name ∧
      lookupModel? document.models name = some model := by
  constructor
  · intro member
    obtain ⟨finding, isFinding, rfl⟩ := List.mem_map.mp member
    exact ⟨finding.1, complete.met finding isFinding, complete.gathered.found finding isFinding⟩
  · rintro ⟨name, met, stands⟩
    obtain ⟨finding, isFinding, found⟩ := complete.finding_of_met coherent met
    obtain rfl := Option.some.inj (found.symm.trans stands)
    exact List.mem_map_of_mem isFinding

theorem closure_built_iff {document : Document} {includeAllModels : Bool}
    (coherent : document.Coherent includeAllModels) :
    (∃ closure, document.closure includeAllModels = .ok closure) ↔
      ∀ name, document.Met includeAllModels name →
        ∃ model, lookupModel? document.models name = some model := by
  constructor
  · rintro ⟨closure, built⟩ name met
    obtain ⟨findings, complete⟩ := closure_complete built
    obtain ⟨finding, _, found⟩ := complete.finding_of_met coherent met
    exact ⟨finding.2, found⟩
  · intro resolves
    cases outcome : document.closure includeAllModels with
    | ok closure => exact ⟨closure, rfl⟩
    | error error =>
        obtain ⟨reference, _, unknown, met⟩ := closure_error outcome
        obtain ⟨model, found⟩ := resolves reference.1 met
        rw [found] at unknown
        contradiction

end Document

end ApiContracts
