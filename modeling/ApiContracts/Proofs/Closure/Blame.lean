import ApiContracts.Proofs.Closure.Document

/-!
Failures of a closure tell the truth. The name that a failure reports stands for no model, and the
holder that it reports is an operation or a model in which the name occurs.
-/

namespace ApiContracts

open Closure

namespace Document

def Uses (document : Document) (holder name : String) : Prop :=
  (∃ operation ∈ document.operations, operation.operationId = holder ∧ operation.Mentions name) ∨
    ∃ model ∈ document.models, model.name = holder ∧ model.Mentions name

theorem uses_of_root {document : Document} {includeAllModels : Bool} {reference : Reference}
    (pending : reference ∈ rootReferences (document.roots includeAllModels)) :
    document.Uses reference.2 reference.1 ∨
      ∃ model ∈ document.models, model.name = reference.1 := by
  obtain ⟨root, isRoot, held⟩ := List.mem_flatMap.mp pending
  obtain ⟨name, mentioned, rfl⟩ := List.mem_map.mp held
  rw [roots, List.mem_append] at isRoot
  rcases isRoot with used | listed
  · obtain ⟨operation, isOperation, isRoot⟩ := List.mem_flatMap.mp used
    have holder : operation.operationId = root.1 := by
      obtain ⟨type, _, rfl⟩ := List.mem_map.mp isRoot
      rfl
    exact .inl (.inl ⟨operation, isOperation, holder,
      (operation.mentions_iff name).mpr
        ⟨root, isRoot, (root.2.mem_references_iff name).mp mentioned⟩⟩)
  · split at listed
    · obtain ⟨model, isModel, rfl⟩ := List.mem_map.mp listed
      rw [TypeExpr.references, List.mem_singleton] at mentioned
      exact .inr ⟨model, isModel, mentioned.symm⟩
    · simp at listed

/-- A closure that is not built fails by an unknown model. No model of the document stands for the
reported name, and the reported holder uses it. -/
theorem closure_blames {document : Document} {includeAllModels : Bool} {error : GenerationError}
    (failed : document.closure includeAllModels = .error error) :
    ∃ name holder, error = .unknownModel name holder ∧
      lookupModel? document.models name = none ∧
      (∀ model ∈ document.models,
        model.name ≠ name ∧ (model.name ≠ "" → model.name ++ "Dto" ≠ name)) ∧
      document.Uses holder name := by
  obtain ⟨findings, walked⟩ := document.walked_roots includeAllModels
  rw [Document.closure] at failed
  split at failed
  next => simp at failed
  next stopped reference missing =>
      rw [missing] at walked
      obtain ⟨unknown, origin⟩ := walked.missing reference rfl
      have apart := (lookupModel?_eq_none_iff _ _).mp unknown
      refine ⟨reference.1, reference.2, (Except.error.inj failed).symm, unknown, apart, ?_⟩
      rcases origin with pending | ⟨finding, member, holder, held⟩
      · rcases uses_of_root pending with uses | ⟨model, isModel, named⟩
        · exact uses
        -- A model that is asked for by its own name is never missing.
        · exact absurd named (apart model isModel).1
      · have found := walked.gathered.found finding (by simpa using member)
        exact .inr ⟨finding.2, (standsFor_of_lookup found).1, holder.symm, held⟩

def shelter : Document :=
  let property (name : String) (type : TypeExpr) : Property :=
    ⟨name, type, true, false, none, .none, none⟩
  { title := "Shelter"
    version := "1"
    operations :=
      [⟨"listPens", ⟨"GET"⟩, "/pens", none, [], [], none,
        .map (.scalar .string) (.array (.reference "PenDto"))⟩]
    models :=
      [⟨"Pen", none, [property "pets" (.map (.scalar .string) (.reference "Pet"))], []⟩,
        ⟨"Pet", none, [property "keepers" (.array (.array (.reference "KeeperDto")))], []⟩] }

theorem shelter_blames :
    shelter.closure true = .error (.unknownModel "KeeperDto" "Pet") ∧
      lookupModel? shelter.models "KeeperDto" = none ∧ shelter.Uses "Pet" "KeeperDto" := by
  have outcome : (match shelter.closure true with
    | .ok _ => false
    | .error error => error == .unknownModel "KeeperDto" "Pet") = true := by decide +kernel
  cases result : shelter.closure true with
  | ok closure => simp [result] at outcome
  | error error =>
      obtain rfl : error = .unknownModel "KeeperDto" "Pet" := by simpa [result] using outcome
      obtain ⟨name, holder, same, unknown, _, uses⟩ := closure_blames result
      obtain ⟨rfl, rfl⟩ := GenerationError.unknownModel.inj same
      exact ⟨rfl, unknown, uses⟩

end Document

end ApiContracts
