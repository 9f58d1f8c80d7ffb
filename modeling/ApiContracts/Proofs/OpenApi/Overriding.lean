import ApiContracts.Proofs.OpenApi.ByReference
import ApiContracts.Proofs.OpenApi.Reference

/-!
Parameters of an operation and of its path. One that the operation declares takes the place of the
one of its name and location among those of the path, or stands behind all of them; what the
operation declares last counts. All other parameters of the path stay as they are.
-/

namespace ApiContracts.OpenApi

/-- The entry of a list of parameters stands for this one: it is there itself, or a reference to it
by its name among all parameters of the description. -/
inductive Resolves (description : Description) : OrReference ParameterObject → ParameterObject → Prop
  | inPlace {parameter} : Resolves description (.inline parameter) parameter
  | named {name parameter} : description.parameters.lookup name = some (.inline parameter) →
      Resolves description (.reference (parameterRefStart ++ name)) parameter

theorem resolveParameter?_eq_some_iff (description : Description)
    (given : OrReference ParameterObject) (parameter : ParameterObject) :
    resolveParameter? description given = some parameter ↔
      Resolves description given parameter := by
  cases given with
  | inline value =>
      rw [resolveParameter?, Option.some.injEq]
      constructor
      · rintro rfl
        exact .inPlace
      · rintro ⟨⟩
        rfl
  | reference path =>
      simp only [resolveParameter?, Option.bind_eq_some_iff, dropStart?_eq_some_iff]
      constructor
      · rintro ⟨name, rfl, found⟩
        split at found
        next value listed => exact Option.some.inj found ▸ .named listed
        next => contradiction
      · rintro (_ | ⟨listed⟩)
        exact ⟨_, rfl, by rw [listed]⟩

def ReadAsParameters (description : Description) (given : List (OrReference ParameterObject))
    (parameters : List Parameter) : Prop :=
  List.Forall₂ (fun entry parameter => ∃ object, Resolves description entry object ∧
    parameterOf description.schemas object = parameter) given parameters

theorem resolvedParameters_cons (description : Description)
    (entry : OrReference ParameterObject) (given : List (OrReference ParameterObject)) :
    resolvedParameters description (entry :: given) =
      (match resolveParameter? description entry with
        | some object => [parameterOf description.schemas object]
        | none => []) ++ resolvedParameters description given := by
  rw [resolvedParameters, resolvedParameters, List.filterMap_cons]
  cases resolveParameter? description entry <;> rfl

theorem readAs_resolvedParameters {description : Description}
    {given : List (OrReference ParameterObject)}
    (clean : parameterDefects description given = []) :
    ReadAsParameters description given (resolvedParameters description given) := by
  have resolves : ∀ entry ∈ given, ∃ object, resolveParameter? description entry = some object :=
    fun entry isEntry => resolved_of_no_defects clean isEntry
  clear clean
  induction given with
  | nil => exact .nil
  | cons entry given ih =>
      obtain ⟨⟨object, resolved⟩, later⟩ := List.forall_mem_cons.mp resolves
      rw [resolvedParameters_cons, resolved]
      exact .cons ⟨object, (resolveParameter?_eq_some_iff ..).mp resolved, rfl⟩ (ih later)

theorem ReadAsParameters.eq {description : Description}
    {given : List (OrReference ParameterObject)} {parameters : List Parameter}
    (read : ReadAsParameters description given parameters) :
    resolvedParameters description given = parameters := by
  induction read with
  | nil => rfl
  | cons first _ ih =>
      obtain ⟨object, stands, rfl⟩ := first
      rw [resolvedParameters_cons, (resolveParameter?_eq_some_iff ..).mpr stands, ih]
      rfl

structure PutOver (own inherited merged : List Parameter) : Prop where
  distinct : (merged.map parameterKey).Nodup
  declared : ∀ before parameter after, own = before ++ parameter :: after →
    (∀ later ∈ after, parameterKey later ≠ parameterKey parameter) → parameter ∈ merged
  kept : ∀ parameter ∈ inherited,
    (∀ other ∈ own, parameterKey other ≠ parameterKey parameter) → parameter ∈ merged
  order : merged.map parameterKey = inherited.map parameterKey ++
    newKeys (inherited.map parameterKey) (own.map parameterKey)

theorem mergeParameters_putOver (own : List Parameter) {inherited : List Parameter}
    (distinct : (inherited.map parameterKey).Nodup) :
    PutOver own inherited (mergeParameters inherited own) := by
  rw [mergeParameters_eq]
  refine ⟨putAllBy_keys_nodup distinct, ?_, ?_, putAllBy_keys own inherited⟩
  · rintro before parameter after rfl last
    exact mem_putAllBy_of_last last
  · intro parameter isInherited different
    exact mem_putAllBy_of_other isInherited different

theorem required_of_path {description : Description} {given : List (OrReference ParameterObject)}
    {parameter : Parameter} (member : parameter ∈ resolvedParameters description given)
    (inPath : parameter.location = .path) : parameter.required = true := by
  obtain ⟨object, _, rfl⟩ := List.mem_map.mp member
  have located : object.location = .path := inPath
  simp [parameterOf, located]

structure Parametrized (description : Description) (entry : Endpoint) (operation : Operation) :
    Prop where
  overridden : ∃ inherited own, ReadAsParameters description entry.2.2.1.parameters inherited ∧
    ReadAsParameters description entry.2.2.2.parameters own ∧
    ((inherited.map parameterKey).Nodup → PutOver own inherited operation.parameters)
  required : ∀ parameter ∈ operation.parameters,
    parameter.location = .path → parameter.required = true

/-- The parameters of an accepted operation are those of its path, if these are different ones, with
its own put over them, and those in the path are required. -/
theorem parameters_overridden {description : Description} {document : Document}
    (accepted : OpenApi.document description = .ok document) :
    List.Forall₂ (Parametrized description) (entries description) document.operations := by
  refine (document_describes accepted).2.imp ?_
  rintro ⟨path, verb, item, source⟩ operation describes
  obtain ⟨itemClean, ownClean⟩ := List.append_eq_nil_iff.mp describes.resolved
  rw [← describes.same]
  constructor
  · exact ⟨_, _, readAs_resolvedParameters itemClean, readAs_resolvedParameters ownClean,
      mergeParameters_putOver _⟩
  · intro parameter isParameter inPath
    rw [operationOf, mergeParameters_eq] at isParameter
    rcases mem_putAllBy isParameter with own | inherited
    · exact required_of_path own inPath
    · exact required_of_path inherited inPath

def kiosk : Description :=
  let number : Schema := .object (.ofWord "integer")
  { title := "Kiosk", version := "1", schemas := []
    parameters := [("Id", .inline ⟨"id", .path, none, none⟩)]
    paths :=
      [("/shelves/{id}", ⟨[.reference (parameterRefStart ++ "Id"),
          .inline ⟨"page", .query, none, some number⟩],
        [("get", { OperationObject.ofId "listPapers" with parameters :=
          [.inline ⟨"limit", .query, none, none⟩, .inline ⟨"page", .query, some true, none⟩,
            .inline ⟨"limit", .query, none, some number⟩] })]⟩)] }

def kioskInherited : List Parameter :=
  [⟨"id", .path, true, .scalar .string⟩, ⟨"page", .query, false, .scalar .integer⟩]

def kioskOwn : List Parameter :=
  [⟨"limit", .query, false, .scalar .string⟩, ⟨"page", .query, true, .scalar .string⟩,
    ⟨"limit", .query, false, .scalar .integer⟩]

theorem kiosk_overridden : ∃ document operation, OpenApi.document kiosk = .ok document ∧
    document.operations = [operation] ∧
    (kioskInherited.map parameterKey).Nodup ∧
    PutOver kioskOwn kioskInherited operation.parameters ∧
    operation.parameters = [⟨"id", .path, true, .scalar .string⟩,
      ⟨"page", .query, true, .scalar .string⟩, ⟨"limit", .query, false, .scalar .integer⟩] := by
  have answers : ((OpenApi.document kiosk).map fun document =>
      document.operations.map (·.parameters)) = .ok [[⟨"id", .path, true, .scalar .string⟩,
        ⟨"page", .query, true, .scalar .string⟩, ⟨"limit", .query, false, .scalar .integer⟩]] := by
    decide +kernel
  obtain ⟨document, accepted, parameters⟩ := (map_ok_iff _ _ _).mp answers
  obtain ⟨operation, only, merged⟩ := List.map_eq_singleton_iff.mp parameters
  have distinct : (kioskInherited.map parameterKey).Nodup := by decide
  have parametrized := parameters_overridden accepted
  rw [only] at parametrized
  obtain ⟨inherited, own, readInherited, readOwn, overrides⟩ :=
    (List.forall₂_cons.mp parametrized).1.overridden
  have isInherited : kioskInherited = inherited := readInherited.eq
  have isOwn : kioskOwn = own := readOwn.eq
  subst isInherited isOwn
  exact ⟨document, operation, accepted, only, distinct, overrides distinct, merged⟩

end ApiContracts.OpenApi
