import ApiContracts.Proofs.Closure.Walk

/-!
The closure of a document: what it has gathered if it was built, and which reference is to blame
if it was not.
-/

namespace ApiContracts

open Closure

def Operation.Mentions (operation : Operation) (name : String) : Prop :=
  (∃ body, operation.requestBody = some body ∧ (TypeExpr.reference name).Within body.type) ∨
    (∃ type, operation.response.declaredType? = some type ∧
      (TypeExpr.reference name).Within type) ∨
    ∃ parameter ∈ operation.parameters, (TypeExpr.reference name).Within parameter.type

theorem Operation.mentions_iff (operation : Operation) (name : String) :
    operation.Mentions name ↔
      ∃ root ∈ operation.roots, (TypeExpr.reference name).Within root.2 := by
  simp only [Operation.Mentions, Operation.roots, List.mem_map, List.mem_append,
    Option.mem_toList]
  constructor
  · rintro (⟨body, there, mentioned⟩ | ⟨type, declared, mentioned⟩ | ⟨parameter, member, mentioned⟩)
    · exact ⟨_, ⟨body.type, .inl (.inl ⟨body, there, rfl⟩), rfl⟩, mentioned⟩
    · exact ⟨_, ⟨type, .inl (.inr declared), rfl⟩, mentioned⟩
    · exact ⟨_, ⟨parameter.type, .inr ⟨parameter, member, rfl⟩, rfl⟩, mentioned⟩
  · rintro ⟨_, ⟨type, (⟨body, there, rfl⟩ | declared) | ⟨parameter, member, rfl⟩, rfl⟩, mentioned⟩
    · exact .inl ⟨body, there, mentioned⟩
    · exact .inr (.inl ⟨type, declared, mentioned⟩)
    · exact .inr (.inr ⟨parameter, member, mentioned⟩)

namespace Document

def Seeds (document : Document) (includeAllModels : Bool) (name : String) : Prop :=
  (∃ operation ∈ document.operations, operation.Mentions name) ∨
    (includeAllModels = true ∧ ∃ model ∈ document.models, model.name = name)

theorem mem_rootNames {roots : List (String × TypeExpr)} {name : String} :
    name ∈ (rootReferences roots).map Prod.fst ↔
      ∃ root ∈ roots, (TypeExpr.reference name).Within root.2 := by
  simp only [rootReferences, List.mem_map, List.mem_flatMap, TypeExpr.mem_references_iff]
  constructor
  · rintro ⟨_, ⟨root, member, other, mentioned, rfl⟩, rfl⟩
    exact ⟨root, member, mentioned⟩
  · rintro ⟨root, member, mentioned⟩
    exact ⟨_, ⟨root, member, name, mentioned, rfl⟩, rfl⟩

theorem mem_rootNames_iff (document : Document) (includeAllModels : Bool) (name : String) :
    name ∈ (rootReferences (document.roots includeAllModels)).map Prod.fst ↔
      document.Seeds includeAllModels name := by
  simp only [mem_rootNames, Seeds, Operation.mentions_iff, roots, List.mem_append,
    List.mem_flatMap]
  constructor
  · rintro ⟨root, ⟨operation, member, used⟩ | listed, mentioned⟩
    · exact .inl ⟨operation, member, root, used, mentioned⟩
    · split at listed
      next all =>
          obtain ⟨model, member, rfl⟩ := List.mem_map.mp listed
          cases mentioned
          exact .inr ⟨all, model, member, rfl⟩
      next => simp at listed
  · rintro (⟨operation, member, root, used, mentioned⟩ | ⟨all, model, member, rfl⟩)
    · exact ⟨root, .inl ⟨operation, member, used⟩, mentioned⟩
    · refine ⟨(model.name, .reference model.name), .inr ?_, .here⟩
      rw [if_pos all]
      exact List.mem_map_of_mem member

structure Complete (document : Document) (includeAllModels : Bool) (findings : List Finding)
    (closure : Closure) : Prop where
  gathered : Gathered document.models findings closure
  met : ∀ finding ∈ findings,
    Meets (fun name model => lookupModel? document.models name = some model)
      (document.Seeds includeAllModels) finding.1
  seeds : ∀ name, document.Seeds includeAllModels name →
    closure.contains (Naming.dtoName name) = true
  closed : ∀ finding ∈ findings, ∀ name, finding.2.Mentions name →
    closure.contains (Naming.dtoName name) = true

theorem walked_roots (document : Document) (includeAllModels : Bool) :
    ∃ findings,
      Walked document.models [] (rootReferences (document.roots includeAllModels)) findings
        (expandAll document.models .empty (document.roots includeAllModels)) :=
  expandAll_walked _ (gathered_empty _)

theorem closure_complete {document : Document} {includeAllModels : Bool} {closure : Closure}
    (built : document.closure includeAllModels = .ok closure) :
    ∃ findings, document.Complete includeAllModels findings closure := by
  obtain ⟨findings, walked⟩ := document.walked_roots includeAllModels
  rw [Document.closure] at built
  split at built
  next gatheredAll finished =>
      obtain rfl := Except.ok.inj built
      rw [finished] at walked
      refine ⟨findings, walked.gathered.boxRecursive, ?_, ?_, walked.closed rfl⟩
      · intro finding member
        simpa only [mem_rootNames_iff] using walked.met finding member
      · intro name seed
        obtain ⟨reference, pending, rfl⟩ :=
          List.mem_map.mp ((mem_rootNames_iff document includeAllModels name).mpr seed)
        exact walked.followed rfl reference pending
  next => simp at built

theorem closure_error {document : Document} {includeAllModels : Bool} {error : GenerationError}
    (failed : document.closure includeAllModels = .error error) :
    ∃ reference, error = unknownModel reference ∧
      lookupModel? document.models reference.1 = none ∧
      Meets (fun name model => lookupModel? document.models name = some model)
        (document.Seeds includeAllModels) reference.1 := by
  obtain ⟨findings, walked⟩ := document.walked_roots includeAllModels
  rw [Document.closure] at failed
  split at failed
  next => simp at failed
  next stopped reference missing =>
      rw [missing] at walked
      obtain ⟨unknown, origin⟩ := walked.missing reference rfl
      refine ⟨reference, (Except.error.inj failed).symm, unknown, ?_⟩
      rcases origin with pending | ⟨finding, member, _, holds⟩
      · exact .seed ((mem_rootNames_iff _ _ _).mp (List.mem_map_of_mem pending))
      · have met := walked.met finding member
        simp only [mem_rootNames_iff] at met
        exact .held met (walked.gathered.found finding (by simpa using member)) holds

def addPet : Operation :=
  ⟨"addPet", ⟨"POST"⟩, "/pets", none, [], [], some ⟨.reference "Pet", true⟩,
    .single (.reference "PetDto")⟩

def clinic : Document :=
  let property (name : String) (type : TypeExpr) : Property :=
    ⟨name, type, true, false, none, .none, none⟩
  { title := "Clinic"
    version := "1"
    operations :=
      [addPet,
        ⟨"list.owners", ⟨"GET"⟩, "/owners", none, [],
          [⟨"limit", .query, false, .scalar .integer⟩], none, .array (.reference "Owner")⟩,
        ⟨"removePet", ⟨"DELETE"⟩, "/pet", none, [],
          [⟨"id", .path, true, .scalar .long⟩], none, .void⟩]
    models :=
      [⟨"Owner", none, [property "pets" (.array (.reference "Pet"))], []⟩,
        ⟨"Pet", none, [property "owner" (.reference "OwnerDto"),
          property "mother" (.reference "Pet"),
          property "tags" (.map (.scalar .string) (.reference "Tag"))], []⟩,
        ⟨"Tag", none, [], ["shy", "loud"]⟩,
        ⟨"Vaccine", none, [property "pet" (.reference "Pet")], []⟩] }

end Document

end ApiContracts
