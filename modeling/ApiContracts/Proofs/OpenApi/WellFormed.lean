import ApiContracts.Proofs.OpenApi.Issues
import ApiContracts.Proofs.OpenApi.Reference
import ApiContracts.Proofs.Plan.Outcome
import Mathlib.Data.Prod.Basic

/-!
Which descriptions are accepted, and what their documents consist of. Every operation needs an id of
its own, every declared result has to be a type, and every reference to a parameter has to lead to
one; those of a path count only if it has operations. An accepted description loses no operation.
-/

namespace ApiContracts

def Operation.key (operation : Operation) : String × Method := (operation.path, operation.method)

namespace OpenApi

/-- The reference leads to a named parameter that is described in place. -/
def LeadsToParameter (description : Description) (path : String) : Prop :=
  ∃ name parameter, path = parameterRefStart ++ name ∧
    description.parameters.lookup name = some (.inline parameter)

structure WellFormed (description : Description) : Prop where
  named : ∀ entry : Endpoint, entry ∈ entries description →
    ∃ operationId, entry.operation.operationId = some operationId
  distinct : ((entries description).map fun entry : Endpoint => entry.operation.operationId).Nodup
  declared : ∀ entry : Endpoint, entry ∈ entries description →
    ∀ text, entry.operation.returnType = some text →
      ∃ type, TypeExpr.parse (isModelName description.schemas) text = .ok type
  own : ∀ entry : Endpoint, entry ∈ entries description →
    ∀ path, .reference path ∈ entry.operation.parameters → LeadsToParameter description path
  inherited : ∀ place ∈ description.paths, place.2.operations ≠ [] →
    ∀ path, .reference path ∈ place.2.parameters → LeadsToParameter description path

def methodOf (verb : String) : Method := ⟨String.ofList (verb.toList.map Char.toUpper)⟩

def Endpoint.key (entry : Endpoint) : String × Method := (entry.1, methodOf entry.2.1)

structure ListedOnce (description : Description) : Prop where
  paths : (description.paths.map Prod.fst).Nodup
  methods : ∀ place ∈ description.paths,
    (place.2.operations.map fun pair => methodOf pair.1).Nodup

/-! ### Acceptance, operation by operation -/

theorem mem_entries_iff (description : Description) (entry : Endpoint) :
    entry ∈ entries description ↔
      (entry.1, entry.item) ∈ description.paths ∧
        (entry.2.1, entry.operation) ∈ entry.item.operations := by
  obtain ⟨path, verb, item, operation⟩ := entry
  simp only [entries, List.mem_flatMap, List.mem_map, Prod.exists, Prod.mk.injEq]
  constructor
  · rintro ⟨_, _, isPath, _, _, isOperation, rfl, rfl, rfl, rfl⟩
    exact ⟨isPath, isOperation⟩
  · rintro ⟨isPath, isOperation⟩
    exact ⟨path, item, isPath, verb, operation, isOperation, rfl, rfl, rfl, rfl⟩

theorem resolveParameter?_eq_none_iff (description : Description) (path : String) :
    resolveParameter? description (.reference path) = none ↔
      ¬LeadsToParameter description path := by
  have begins (name : String) := dropStart?_eq_some_iff parameterRefStart path name
  rw [resolveParameter?, Option.bind_eq_none_iff]
  constructor
  · rintro unresolved ⟨name, parameter, split, found⟩
    simpa [found] using unresolved name ((begins name).mpr split)
  · intro missing name split
    match found : description.parameters.lookup name with
    | none => rfl
    | some (.reference other) => rfl
    | some (.inline parameter) => exact absurd ⟨name, parameter, (begins name).mp split, found⟩ missing

theorem issuesOf_eq_nil_iff (description : Description) (entries : List Endpoint) :
    issuesOf description entries = [] ↔
      ∀ before entry after, entries = before ++ entry :: after →
        entry.HasOwnId before ∧ ∀ defect, ¬HasDefect description before entry defect := by
  simp only [List.eq_nil_iff_forall_not_mem, mem_issuesOf_iff]
  constructor
  · intro clean before entry after split
    have listed (defect : Defect) (has : HasDefect description before entry defect) :
        ¬(defect.isOfId = true ∨ entry.HasOwnId before) := fun shown =>
      clean ⟨entry.location, defect⟩ ⟨before, entry, after, split, rfl, has, shown⟩
    -- The id comes first: unless it is in order, nothing else is listed.
    have own : entry.HasOwnId before := by
      rw [← idDefects_eq_nil_iff, List.eq_nil_iff_forall_not_mem]
      intro defect isOfId
      obtain ⟨has, flag⟩ := (mem_idDefects_iff description ..).mp isOfId
      exact listed defect has (.inl flag)
    exact ⟨own, fun defect has => listed defect has (.inr own)⟩
  · rintro sound issue ⟨before, entry, after, split, _, has, _⟩
    exact (sound before entry after split).2 issue.defect has

theorem ownIds_iff (entries : List Endpoint) :
    (∀ before entry after, entries = before ++ entry :: after → entry.HasOwnId before) ↔
      (∀ entry ∈ entries, ∃ operationId, entry.operation.operationId = some operationId) ∧
        (entries.map (·.operation.operationId)).Nodup := by
  constructor
  · intro own
    constructor
    · intro entry isEntry
      obtain ⟨before, after, split⟩ := List.append_of_mem isEntry
      obtain ⟨operationId, named, _⟩ := own before entry after split
      exact ⟨operationId, named⟩
    · -- From the end: the last operation has an id that none before it has.
      induction entries using List.reverseRecOn with
      | nil => exact List.nodup_nil
      | append_singleton entries last ih =>
          obtain ⟨operationId, named, fresh⟩ := own entries last [] rfl
          have others := ih fun before entry after split =>
            own before entry (after ++ [last]) (by simp [split])
          rw [List.map_append, List.nodup_append]
          refine ⟨others, List.nodup_singleton _, ?_⟩
          intro earlierId isEarlier lastId isLast
          obtain ⟨earlier, there, rfl⟩ := List.mem_map.mp isEarlier
          obtain rfl : lastId = some operationId := by simpa [named] using isLast
          exact fresh earlier there
  · rintro ⟨named, distinct⟩ before entry after rfl
    obtain ⟨operationId, isNamed⟩ := named entry (by simp)
    refine ⟨operationId, isNamed, ?_⟩
    intro earlier there same
    rw [List.map_append, List.nodup_append] at distinct
    refine distinct.2.2 _ (List.mem_map_of_mem there) entry.operation.operationId (by simp) ?_
    rw [same, isNamed]

theorem no_defect_iff {description : Description} {before : List Endpoint} {entry : Endpoint}
    (own : entry.HasOwnId before) :
    (∀ defect, ¬HasDefect description before entry defect) ↔
      (∀ text, entry.operation.returnType = some text →
        ∃ type, TypeExpr.parse (isModelName description.schemas) text = .ok type) ∧
      ∀ path, .reference path ∈ entry.item.parameters ++ entry.operation.parameters →
        LeadsToParameter description path := by
  constructor
  · intro clean
    constructor
    · intro text declared
      cases parsed : TypeExpr.parse (isModelName description.schemas) text with
      | ok type => exact ⟨type, rfl⟩
      | error fault => exact absurd (.undeclared declared parsed) (clean _)
    · intro path isParameter
      by_contra missing
      have unresolved := (resolveParameter?_eq_none_iff description path).mpr missing
      exact clean _ (.unresolved isParameter unresolved)
  · rintro ⟨declared, leads⟩ defect has
    have noId := (idDefects_eq_nil_iff before entry).mpr own
    have ofId := mem_idDefects_iff description before entry defect
    rw [noId] at ofId
    cases has with
    | unnamed unnamed => exact absurd (ofId.mpr ⟨.unnamed unnamed, rfl⟩) (by simp)
    | repeated named taken => exact absurd (ofId.mpr ⟨.repeated named taken, rfl⟩) (by simp)
    | unresolved isParameter missing =>
        exact (resolveParameter?_eq_none_iff ..).mp missing (leads _ isParameter)
    | undeclared isDeclared parsed =>
        obtain ⟨type, isType⟩ := declared _ isDeclared
        simp [isType] at parsed

theorem issuesOf_entries_eq_nil_iff (description : Description) :
    issuesOf description (entries description) = [] ↔ WellFormed description := by
  rw [issuesOf_eq_nil_iff]
  constructor
  · intro sound
    obtain ⟨named, distinct⟩ := (ownIds_iff (entries description)).mp
      fun before entry after split => (sound before entry after split).1
    have clean (entry : Endpoint) (isEntry : entry ∈ entries description) :
        (∀ text, entry.operation.returnType = some text →
          ∃ type, TypeExpr.parse (isModelName description.schemas) text = .ok type) ∧
        ∀ path, .reference path ∈ entry.item.parameters ++ entry.operation.parameters →
          LeadsToParameter description path := by
      obtain ⟨before, after, split⟩ := List.append_of_mem isEntry
      obtain ⟨own, sane⟩ := sound before entry after split
      exact (no_defect_iff own).mp sane
    refine ⟨named, distinct, fun entry isEntry => (clean entry isEntry).1, ?_, ?_⟩
    · intro entry isEntry path isParameter
      exact (clean entry isEntry).2 path (List.mem_append_right _ isParameter)
    · intro place isPlace used path isParameter
      obtain ⟨pair, isOperation⟩ := List.exists_mem_of_ne_nil _ used
      have isEntry := (mem_entries_iff description (place.1, pair.1, place.2, pair.2)).mpr
        ⟨isPlace, isOperation⟩
      exact (clean _ isEntry).2 path (List.mem_append_left _ isParameter)
  · intro wellFormed before entry after split
    have isEntry : entry ∈ entries description := by simp [split]
    have own := (ownIds_iff (entries description)).mpr
      ⟨wellFormed.named, wellFormed.distinct⟩ before entry after split
    refine ⟨own, (no_defect_iff own).mpr ⟨wellFormed.declared entry isEntry, ?_⟩⟩
    intro path isParameter
    obtain ⟨isPlace, isOperation⟩ := (mem_entries_iff description entry).mp isEntry
    rcases List.mem_append.mp isParameter with inherited | isOwn
    · exact wellFormed.inherited _ isPlace (List.ne_nil_of_mem isOperation) path inherited
    · exact wellFormed.own entry isEntry path isOwn

theorem accepted_iff (description : Description) :
    (∃ document, OpenApi.document description = .ok document) ↔ WellFormed description := by
  have rejected := document_eq_error_iff description
  rw [← issuesOf_entries_eq_nil_iff]
  cases made : OpenApi.document description with
  | ok document =>
      refine iff_of_true ⟨document, rfl⟩ ?_
      by_contra issues
      have refused := (rejected _).mpr ⟨issues, rfl⟩
      simp [made] at refused
  | error error => exact iff_of_false (by simp) ((rejected error).mp made).1

/-! ### Documents -/

theorem Describes.listed {description : Description} {entry : Endpoint} {operation : Operation}
    (describes : Describes description entry operation) :
    (some operation.operationId, operation.key) = (entry.operation.operationId, entry.key) := by
  rw [Endpoint.operation, describes.named, ← describes.same]
  rfl

theorem operations_of_accepted {description : Description} {document : Document}
    (accepted : OpenApi.document description = .ok document) :
    document.operations.map (fun operation => (some operation.operationId, operation.key)) =
      (entries description).map fun entry : Endpoint => (entry.operation.operationId, entry.key) := by
  rw [← List.forall₂_eq_eq_eq, List.forall₂_map_left_iff, List.forall₂_map_right_iff]
  exact ((document_describes accepted).2.imp fun _ _ describes => describes.listed).flip

theorem modelsOf_forall₂ (schemas : Schemas) :
    List.Forall₂ (fun named model =>
        model.name = named.1 ∧ model = modelOf schemas named.1 named.2)
      (schemas.filter (·.2.isModel)) (modelsOf schemas) := by
  rw [modelsOf, List.forall₂_map_right_iff, List.forall₂_same]
  exact fun named _ => ⟨modelOf_name schemas named.1 named.2, rfl⟩

theorem ListedOnce.keys_nodup {description : Description} (once : ListedOnce description) :
    ((entries description).map Endpoint.key).Nodup := by
  have byPath : (entries description).map Endpoint.key =
      description.paths.flatMap fun place =>
        place.2.operations.map fun pair => (place.1, methodOf pair.1) := by
    simp [entries, Endpoint.key, List.map_flatMap, Function.comp_def]
  rw [byPath, List.nodup_flatMap]
  constructor
  · intro place isPlace
    have paired := (once.methods place isPlace).map (Prod.mk_right_injective place.1)
    rwa [List.map_map] at paired
  · refine (List.pairwise_map.mp once.paths).imp ?_
    intro first second different key inFirst inSecond
    obtain ⟨_, _, rfl⟩ := List.mem_map.mp inFirst
    obtain ⟨_, _, same⟩ := List.mem_map.mp inSecond
    exact different (Prod.mk.inj same).1.symm

theorem filter_key_eq_singleton {α β : Type} [DecidableEq β] {key : α → β} {elements : List α}
    {element : α} (distinct : (elements.map key).Nodup) (isElement : element ∈ elements) :
    elements.filter (key · = key element) = [element] := by
  obtain ⟨front, back, rfl⟩ := List.append_of_mem isElement
  obtain ⟨notBefore, notBehind⟩ := place_not_mem distinct
  have dropped {others : List α} (absent : key element ∉ others.map key) :
      others.filter (key · = key element) = [] := by
    simpa using absent
  rw [List.filter_append, List.filter_cons_of_pos (by simp), dropped notBefore, dropped notBehind,
    List.nil_append]

theorem operation_unique {description : Description} {document : Document}
    (accepted : OpenApi.document description = .ok document) (once : ListedOnce description)
    {entry : Endpoint} (isEntry : entry ∈ entries description) :
    ∃ operation, document.operations.filter (·.key = entry.key) = [operation] ∧
      entry.operation.operationId = some operation.operationId := by
  have listed := operations_of_accepted accepted
  have keys : document.operations.map (·.key) = (entries description).map Endpoint.key := by
    simpa [Function.comp_def] using congrArg (List.map Prod.snd) listed
  have isListed := List.mem_map_of_mem (f := fun entry : Endpoint =>
    (entry.operation.operationId, entry.key)) isEntry
  rw [← listed] at isListed
  obtain ⟨operation, isOperation, same⟩ := List.mem_map.mp isListed
  obtain ⟨sameId, sameKey⟩ := Prod.mk.inj same
  refine ⟨operation, ?_, sameId.symm⟩
  rw [← sameKey]
  exact filter_key_eq_singleton (keys ▸ once.keys_nodup) isOperation

/-- A description is accepted just if it is well formed, and rejected with some issues otherwise.
The document of an accepted one has its operations, in order and under their ids, paths and methods,
and its models under their names. Where no operation is described twice, none has a second one. -/
theorem acceptance_exact (description : Description) :
    ((∃ document, OpenApi.document description = .ok document) ↔ WellFormed description) ∧
    (¬WellFormed description → ∃ issues, issues ≠ [] ∧
      OpenApi.document description = .error (.invalidSchema issues)) ∧
    ∀ document, OpenApi.document description = .ok document →
      document.operations.map (fun operation => (some operation.operationId, operation.key)) =
        (entries description).map (fun entry : Endpoint =>
          (entry.operation.operationId, entry.key)) ∧
      List.Forall₂ (fun named model =>
          model.name = named.1 ∧ model = modelOf description.schemas named.1 named.2)
        (description.schemas.filter (·.2.isModel)) document.models ∧
      (ListedOnce description → ∀ entry : Endpoint, entry ∈ entries description →
        ∃ operation, document.operations.filter (·.key = entry.key) = [operation] ∧
          entry.operation.operationId = some operation.operationId) := by
  refine ⟨accepted_iff description, ?_, ?_⟩
  · intro malformed
    have issues := mt (issuesOf_entries_eq_nil_iff description).mp malformed
    exact ⟨_, issues, (document_eq_error_iff description _).mpr ⟨issues, rfl⟩⟩
  · intro document accepted
    refine ⟨operations_of_accepted accepted, ?_, fun once _ => operation_unique accepted once⟩
    rw [(document_describes accepted).1]
    exact modelsOf_forall₂ description.schemas

def practice : Description :=
  let pet : Schema := .object { Keywords.ofWord "object" with
    properties := [("name", .object (.ofWord "string"))] }
  let pets : Schema := .object { Keywords.ofWord "array" with
    items := some (.reference (schemaRefStart ++ "Pet") none) }
  { title := "Practice", version := "1"
    schemas := [("Pet", pet), ("Pets", pets)]
    parameters := [("Page", .inline ⟨"page", .query, none, none⟩)]
    paths :=
      [("/drafts", ⟨[.reference (parameterRefStart ++ "Limit")], []⟩),
        ("/pets", ⟨[.reference (parameterRefStart ++ "Page")],
          [("get", { OperationObject.ofId "listPets" with returnType := some "Vec<Pet>" }),
            ("post", .ofId "addPet")]⟩)] }

theorem practice_accepted :
    WellFormed practice ∧ ListedOnce practice ∧
    (∃ document, OpenApi.document practice = .ok document ∧
      document.operations.map (fun operation => (some operation.operationId, operation.key)) =
        [(some "listPets", "/pets", ⟨"GET"⟩), (some "addPet", "/pets", ⟨"POST"⟩)] ∧
      document.models.map (·.name) = ["Pet"] ∧
      ∀ entry : Endpoint, entry ∈ entries practice →
        ∃ operation, document.operations.filter (·.key = entry.key) = [operation] ∧
          entry.operation.operationId = some operation.operationId) ∧
    ¬WellFormed (draft none) ∧ ∃ issues, issues ≠ [] ∧
      OpenApi.document (draft none) = .error (.invalidSchema issues) := by
  have made : (OpenApi.document practice).isOk = true := by decide +kernel
  have refused : (OpenApi.document (draft none)).isOk = false := by decide +kernel
  have once : ListedOnce practice := ⟨by decide +kernel, by decide +kernel⟩
  obtain ⟨document, accepted⟩ := exists_of_isOk made
  obtain ⟨wellFormed, _, documents⟩ := acceptance_exact practice
  obtain ⟨operations, models, each⟩ := documents document accepted
  have modelNames : document.models.map (·.name) =
      (practice.schemas.filter (·.2.isModel)).map Prod.fst := by
    rw [← List.forall₂_eq_eq_eq, List.forall₂_map_left_iff, List.forall₂_map_right_iff]
    exact (models.imp fun _ _ both => both.1).flip
  obtain ⟨draftAccepted, rejected, _⟩ := acceptance_exact (draft none)
  have malformed : ¬WellFormed (draft none) := by
    intro draftWellFormed
    obtain ⟨other, otherAccepted⟩ := draftAccepted.mpr draftWellFormed
    simp [otherAccepted, Except.isOk, Except.toBool] at refused
  refine ⟨wellFormed.mp ⟨document, accepted⟩, once, ⟨document, accepted, ?_, ?_, each once⟩,
    malformed, rejected malformed⟩
  · exact operations.trans (by decide +kernel)
  · exact modelNames.trans (by decide +kernel)

end OpenApi

end ApiContracts
