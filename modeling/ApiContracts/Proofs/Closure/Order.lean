import ApiContracts.Proofs.Closure.Boxing
import ApiContracts.Proofs.Closure.Exactness

/-!
The closure of a document does not depend on the order of its operations, as long as the spelling
of references does not matter: then the models gathered are those of the names met, in whatever
order they are met. Where a DTO name is met in two spellings that do not find one model, the
spelling that is met first decides, and the order with it.
-/

namespace ApiContracts

namespace Closure

theorem holds_perm {first second : List Dto} (perm : first.Perm second) :
    Holds first = Holds second := by
  funext owner target
  simp only [Holds, perm.mem_iff]

theorem boxProperty_perm {first second : List Dto} (distinct : (first.map (·.name)).Nodup)
    (perm : first.Perm second) : boxProperty (edges first) = boxProperty (edges second) := by
  have others : (second.map (·.name)).Nodup := (perm.map _).nodup_iff.mp distinct
  have same : reaches (edges first) = reaches (edges second) := by
    funext start goal
    rw [Bool.eq_iff_iff, reaches_iff, reaches_iff, hasEdge_iff_holds distinct,
      hasEdge_iff_holds others, holds_perm perm]
  funext owner property
  rw [boxProperty, boxProperty, same]

theorem boxRecursive_perm {first second : Closure}
    (distinct : (first.dtos.map (·.name)).Nodup) (perm : first.dtos.Perm second.dtos) :
    first.boxRecursive.dtos.Perm second.boxRecursive.dtos := by
  rw [boxRecursive, boxRecursive, boxProperty_perm distinct perm]
  exact perm.map _

theorem Plain.unboxed_dtos {closure : Closure} (plain : closure.Plain) :
    closure.dtos.map Dto.unboxed = closure.dtos := by
  refine (List.map_congr_left ?_).trans (List.map_id closure.dtos)
  intro dto isDto
  have properties : dto.properties.map (fun property => { property with boxed := false }) =
      dto.properties := by
    refine (List.map_congr_left ?_).trans (List.map_id dto.properties)
    intro property isProperty
    rw [← plain dto isDto property isProperty]
    rfl
  rw [Dto.unboxed, properties]
  rfl

end Closure

open Closure

namespace Document

theorem Complete.boxes {document : Document} {includeAllModels : Bool} {findings : List Finding}
    {closure : Closure} (complete : document.Complete includeAllModels findings closure)
    (built : document.closure includeAllModels = .ok closure) :
    ∃ gathered : Closure, gathered.boxRecursive = closure ∧
      gathered.dtos = (findings.map Prod.snd).map Dto.ofModel := by
  obtain ⟨gathered, plain, rfl⟩ := closure_plain built
  refine ⟨gathered, rfl, ?_⟩
  rw [← plain.unboxed_dtos, ← boxRecursive_unboxed, complete.gathered.dtos_eq, List.map_map]
  rfl

theorem seeds_perm {document : Document} {operations : List Operation}
    (perm : operations.Perm document.operations) (includeAllModels : Bool) :
    ({ document with operations } : Document).Seeds includeAllModels =
      document.Seeds includeAllModels := by
  funext name
  simp only [Seeds, perm.mem_iff]

theorem Coherent.perm {document : Document} {includeAllModels : Bool}
    (coherent : document.Coherent includeAllModels) {operations : List Operation}
    (perm : operations.Perm document.operations) :
    ({ document with operations } : Document).Coherent includeAllModels := by
  constructor
  · simpa only [Met, seeds_perm perm] using coherent.agree
  · simpa only [Met, seeds_perm perm] using coherent.named

theorem closure_dtos_perm {document : Document} {includeAllModels : Bool}
    (coherent : document.Coherent includeAllModels) {operations : List Operation}
    (perm : operations.Perm document.operations) {first second : Closure}
    (built : document.closure includeAllModels = .ok first)
    (rebuilt : ({ document with operations } : Document).closure includeAllModels = .ok second) :
    first.dtos.Perm second.dtos := by
  obtain ⟨early, firstComplete⟩ := closure_complete built
  obtain ⟨late, secondComplete⟩ := closure_complete rebuilt
  have models : (early.map Prod.snd).Perm (late.map Prod.snd) := by
    apply (List.perm_ext_iff_of_nodup (firstComplete.models_nodup coherent)
      (secondComplete.models_nodup (coherent.perm perm))).mpr
    intro model
    rw [firstComplete.mem_models_iff coherent, secondComplete.mem_models_iff (coherent.perm perm)]
    simp only [Met, seeds_perm perm]
  obtain ⟨before, rfl, firstDtos⟩ := firstComplete.boxes built
  obtain ⟨after, rfl, secondDtos⟩ := secondComplete.boxes rebuilt
  apply boxRecursive_perm
  · have names := firstComplete.names_eq coherent
    rw [List.map_map, Function.comp_def] at names
    rw [← boxRecursive_names, firstComplete.gathered.dto_names, names]
    exact firstComplete.gathered.distinct
  · rw [firstDtos, secondDtos]
    exact models.map _

/-- Where spellings do not matter, the order of operations does not either: the closure is built
with the same DTOs, boxed alike, or fails at a reference without a model, both times. -/
theorem closure_perm {document : Document} {includeAllModels : Bool}
    (coherent : document.Coherent includeAllModels) {operations : List Operation}
    (perm : operations.Perm document.operations) :
    (∃ first second, document.closure includeAllModels = .ok first ∧
      ({ document with operations } : Document).closure includeAllModels = .ok second ∧
      first.dtos.Perm second.dtos) ∨
    ∃ first second, document.closure includeAllModels = .error (unknownModel first) ∧
      ({ document with operations } : Document).closure includeAllModels =
        .error (unknownModel second) := by
  have alike : (∃ closure, document.closure includeAllModels = .ok closure) ↔
      ∃ closure, ({ document with operations } : Document).closure includeAllModels =
        .ok closure := by
    rw [closure_built_iff coherent, closure_built_iff (coherent.perm perm)]
    simp only [Met, seeds_perm perm]
  cases built : document.closure includeAllModels with
  | ok first =>
      obtain ⟨second, rebuilt⟩ := alike.mp ⟨first, built⟩
      exact .inl ⟨first, second, rfl, rebuilt, closure_dtos_perm coherent perm built rebuilt⟩
  | error error =>
      obtain ⟨reference, rfl, _⟩ := closure_error built
      cases rebuilt : ({ document with operations } : Document).closure includeAllModels with
      | ok second =>
          obtain ⟨first, again⟩ := alike.mpr ⟨second, rebuilt⟩
          simp [built] at again
      | error error =>
          obtain ⟨other, rfl, _⟩ := closure_error rebuilt
          exact .inr ⟨reference, other, rfl, rfl⟩

theorem coherent_of_listed {document : Document} {includeAllModels : Bool}
    (distinct : DistinctDtoNames document.models)
    (roots : ∀ reference ∈ rootReferences (document.roots includeAllModels),
      ∃ model ∈ document.models, model.name = reference.1)
    (held : ∀ model ∈ document.models, ∀ name ∈ model.references,
      ∃ other ∈ document.models, other.name = name) :
    document.Coherent includeAllModels := by
  have listed {name : String} (met : document.Met includeAllModels name) :
      ∃ model ∈ document.models, model.name = name := by
    cases met with
    | seed isSeed =>
        obtain ⟨reference, isRoot, rfl⟩ :=
          List.mem_map.mp ((mem_rootNames_iff document includeAllModels name).mpr isSeed)
        exact roots reference isRoot
    | held _ found holds =>
        exact held _ (standsFor_of_lookup found).1 _ ((Model.mem_references_iff _ _).mpr holds)
  constructor
  · intro first second isFirst isSecond same
    obtain ⟨model, isModel, rfl⟩ := listed isFirst
    obtain ⟨other, isOther, rfl⟩ := listed isSecond
    rw [distinct model isModel other isOther same]
  · intro name model met found
    obtain ⟨other, isOther, named⟩ := listed met
    obtain ⟨_, same | ⟨unnamed, _⟩⟩ := standsFor_of_lookup found
    · rw [same]
    · exact absurd named (unnamed other isOther)

def pound : Document :=
  let property (name : String) (type : TypeExpr) : Property :=
    ⟨name, type, true, false, none, .none, none⟩
  { title := "Pound"
    version := "1"
    operations :=
      [⟨"addPet", ⟨"POST"⟩, "/pets", none, [], [], some ⟨.reference "PetDto", true⟩, .void⟩,
        ⟨"listOwners", ⟨"GET"⟩, "/owners", none, [], [], none, .array (.reference "Owner")⟩]
    models :=
      [⟨"Owner", none, [property "first" (.reference "PetDto")], []⟩,
        ⟨"PetDto", none, [property "owner" (.reference "Owner"),
          property "litter" (.array (.reference "PetDto"))], []⟩] }

theorem pound_closure_perm :
    pound.Coherent false ∧ pound.operations.reverse.Perm pound.operations ∧
      ∃ first second, pound.closure false = .ok first ∧
        ({ pound with operations := pound.operations.reverse } : Document).closure false =
          .ok second ∧ first.dtos.Perm second.dtos := by
  have coherent : pound.Coherent false :=
    coherent_of_listed (by decide) (by decide) (by decide)
  have perm := List.reverse_perm pound.operations
  have made : (pound.closure false).isOk = true := by decide +kernel
  refine ⟨coherent, perm, ?_⟩
  obtain ⟨closure, built⟩ := exists_of_isOk made
  rcases closure_perm coherent perm with both | ⟨_, _, failed, _⟩
  · exact both
  · simp [built] at failed

def misspelledPound : Document :=
  { pound with
    operations :=
      [⟨"getPet", ⟨"GET"⟩, "/pet", none, [], [], none, .single (.reference "PetDto")⟩,
        ⟨"addPet", ⟨"POST"⟩, "/pets", none, [], [], some ⟨.reference "Pet", true⟩, .void⟩] }

/-- A reference without a model goes unnoticed behind another spelling of its DTO name, and is
fatal in front of it. -/
theorem misspelledPound_order_matters :
    misspelledPound.operations.reverse.Perm misspelledPound.operations ∧
      (∃ closure, misspelledPound.closure false = .ok closure) ∧
      ({ misspelledPound with operations := misspelledPound.operations.reverse } :
        Document).closure false = .error (unknownModel ("Pet", "addPet")) := by
  have made : (misspelledPound.closure false).isOk = true := by decide +kernel
  have failed : (match ({ misspelledPound with
      operations := misspelledPound.operations.reverse } : Document).closure false with
    | .ok _ => false
    | .error error => error == unknownModel ("Pet", "addPet")) = true := by decide +kernel
  refine ⟨List.reverse_perm _, exists_of_isOk made, ?_⟩
  split at failed
  next => simp at failed
  next error outcome => rw [outcome, beq_iff_eq.mp failed]

end Document

end ApiContracts
