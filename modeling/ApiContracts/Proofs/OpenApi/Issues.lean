import ApiContracts.Proofs.OpenApi.Acceptance
import Mathlib.Data.List.Induction
import Mathlib.Data.List.Nodup

/-!
The issues of a rejected description. They stand in the order of the operations. One whose id is
missing or taken has this for its only issue, and all else that is wrong with it is left out; any
other operation has an issue for each defect.
-/

namespace ApiContracts

section Earlier

variable {α : Type}

def withEarlier (before : List α) : List α → List (List α × α)
  | [] => []
  | first :: rest => (before, first) :: withEarlier (before ++ [first]) rest

theorem withEarlier_append (before first second : List α) :
    withEarlier before (first ++ second) =
      withEarlier before first ++ withEarlier (before ++ first) second := by
  induction first generalizing before with
  | nil => simp [withEarlier]
  | cons element rest ih => simp [withEarlier, ih]

theorem mem_withEarlier_iff {before elements earlier : List α} {element : α} :
    (earlier, element) ∈ withEarlier before elements ↔
      ∃ front after, elements = front ++ element :: after ∧ earlier = before ++ front := by
  induction elements generalizing before with
  | nil => simp [withEarlier]
  | cons first rest ih =>
      rw [withEarlier, List.mem_cons, ih]
      constructor
      · rintro (here | ⟨front, after, rfl, rfl⟩)
        · obtain ⟨rfl, rfl⟩ := Prod.mk.inj here
          exact ⟨[], rest, rfl, (List.append_nil _).symm⟩
        · exact ⟨first :: front, after, rfl, by simp⟩
      · rintro ⟨front, after, split, rfl⟩
        cases front with
        | nil =>
            obtain ⟨rfl, rfl⟩ := List.cons.inj split
            simp
        | cons head front =>
            obtain ⟨rfl, rfl⟩ := List.cons.inj split
            exact .inr ⟨front, after, rfl, by simp⟩

end Earlier

section Distinct

variable {α β : Type} {place : α → β} {element other : α} {front back : List α}

theorem place_not_mem (distinct : ((front ++ element :: back).map place).Nodup) :
    place element ∉ front.map place ∧ place element ∉ back.map place := by
  rw [List.map_append, List.map_cons, List.nodup_middle, List.nodup_cons, List.mem_append,
    not_or] at distinct
  exact distinct.1

theorem split_unique {elements before after : List α} (distinct : (elements.map place).Nodup)
    (first : elements = front ++ element :: back) (second : elements = before ++ other :: after)
    (same : place element = place other) : front = before ∧ element = other := by
  subst first
  obtain ⟨freshBefore, freshBehind⟩ := place_not_mem distinct
  rw [same] at freshBefore freshBehind
  have notBefore : other ∉ front := fun there => freshBefore (List.mem_map_of_mem there)
  have notBehind : other ∉ back := fun there => freshBehind (List.mem_map_of_mem there)
  obtain ⟨fronts, elements, _⟩ :=
    (List.append_cons_inj_of_notMem notBefore notBehind).mp second
  exact ⟨fronts, elements⟩

end Distinct

def Defect.isOfId : Defect → Bool
  | .missingOperationId | .duplicateOperationId _ _ => true
  | .invalidReturnType _ _ | .unresolvedParameter _ => false

namespace OpenApi

namespace Endpoint

abbrev item (entry : Endpoint) : PathItem := entry.2.2.1

abbrev operation (entry : Endpoint) : OperationObject := entry.2.2.2

def location (entry : Endpoint) : String := locationOf entry.1 entry.2.1

def HasOwnId (before : List Endpoint) (entry : Endpoint) : Prop :=
  ∃ operationId, entry.operation.operationId = some operationId ∧
    ∀ earlier ∈ before, earlier.operation.operationId ≠ some operationId

end Endpoint

def lastNamed? (before : List Endpoint) (operationId : String) : Option Endpoint :=
  before.reverse.find? (·.operation.operationId == some operationId)

inductive HasDefect (description : Description) (before : List Endpoint) (entry : Endpoint) :
    Defect → Prop
  | unnamed : entry.operation.operationId = none →
      HasDefect description before entry .missingOperationId
  | repeated {operationId earlier} : entry.operation.operationId = some operationId →
      lastNamed? before operationId = some earlier →
      HasDefect description before entry (.duplicateOperationId operationId earlier.location)
  | unresolved {path} :
      .reference path ∈ entry.item.parameters ++ entry.operation.parameters →
      resolveParameter? description (.reference path) = none →
      HasDefect description before entry (.unresolvedParameter path)
  | undeclared {text fault} : entry.operation.returnType = some text →
      TypeExpr.parse (isModelName description.schemas) text = .error fault →
      HasDefect description before entry (.invalidReturnType text fault)

def idDefects (before : List Endpoint) (entry : Endpoint) : List Defect :=
  match entry.operation.operationId with
  | none => [.missingOperationId]
  | some operationId =>
    match lastNamed? before operationId with
    | some earlier => [.duplicateOperationId operationId earlier.location]
    | none => []

def answerDefects (description : Description) (operation : OperationObject) : List Defect :=
  match answerOf description operation with
  | .ok _ => []
  | .error defect => [defect]

def reported (description : Description) (before : List Endpoint) (entry : Endpoint) : List Defect :=
  if (idDefects before entry).isEmpty then
    entryDefects description entry ++ answerDefects description entry.operation
  else idDefects before entry

def issuesOf (description : Description) (entries : List Endpoint) : List Issue :=
  (withEarlier [] entries).flatMap fun (before, entry) =>
    (reported description before entry).map (Issue.mk entry.location)

/-! ### Operations one by one -/

theorem lastNamed?_snoc (before : List Endpoint) (entry : Endpoint) (operationId : String) :
    lastNamed? (before ++ [entry]) operationId =
      if entry.operation.operationId = some operationId then some entry
      else lastNamed? before operationId := by
  rw [lastNamed?, List.reverse_append, List.reverse_singleton, List.singleton_append,
    List.find?_cons]
  split
  next same => rw [if_pos (beq_iff_eq.mp same)]
  next other =>
      rw [if_neg (beq_eq_false_iff_ne.mp other)]
      rfl

theorem lastNamed?_eq_none_iff (before : List Endpoint) (operationId : String) :
    lastNamed? before operationId = none ↔
      ∀ earlier ∈ before, earlier.operation.operationId ≠ some operationId := by
  simp [lastNamed?]

section Reported

variable {before : List Endpoint} {entry : Endpoint} {operationId : String}

theorem reported_unnamed (description : Description)
    (unnamed : entry.operation.operationId = none) :
    reported description before entry = [.missingOperationId] := by
  simp [reported, idDefects, unnamed]

theorem reported_repeated (description : Description) {earlier : Endpoint}
    (named : entry.operation.operationId = some operationId)
    (taken : lastNamed? before operationId = some earlier) :
    reported description before entry =
      [.duplicateOperationId operationId earlier.location] := by
  simp [reported, idDefects, named, taken]

theorem reported_own (description : Description)
    (named : entry.operation.operationId = some operationId)
    (free : lastNamed? before operationId = none) :
    reported description before entry =
      entryDefects description entry ++ answerDefects description entry.operation := by
  simp [reported, idDefects, named, free]

end Reported

theorem issuesOf_snoc (description : Description) (entries : List Endpoint) (entry : Endpoint) :
    issuesOf description (entries ++ [entry]) =
      issuesOf description entries ++
        (reported description entries entry).map (Issue.mk entry.location) := by
  simp [issuesOf, withEarlier_append, withEarlier]

namespace Progress

/-- The issues and the ids of progress are those of the operations that were read. -/
structure Told (description : Description) (entries : List Endpoint) (progress : Progress) :
    Prop where
  issues : progress.issues = issuesOf description entries
  seen : ∀ operationId, progress.seen.lookup operationId =
    (lastNamed? entries operationId).map Endpoint.location

theorem told_start (description : Description) : Told description [] start :=
  ⟨rfl, fun _ => rfl⟩

variable {description : Description} {entries : List Endpoint} {progress : Progress} {entry : Endpoint}
  {operationId : String}

theorem Told.skip (told : progress.Told description entries)
    (unnamed : entry.operation.operationId = none) :
    (progress.report entry.location (reported description entries entry)).Told description
      (entries ++ [entry]) where
  issues := by rw [report_issues, told.issues, issuesOf_snoc]
  seen other := by
    rw [lastNamed?_snoc, unnamed, if_neg (by simp)]
    exact told.seen other

theorem Told.meet (told : progress.Told description entries)
    (named : entry.operation.operationId = some operationId) :
    ((progress.meet operationId entry.location).report entry.location
      (reported description entries entry)).Told description (entries ++ [entry]) where
  issues := by rw [report_issues, meet_issues, told.issues, issuesOf_snoc]
  seen other := by
    rw [lastNamed?_snoc, named, report, Progress.meet, List.lookup_cons, told.seen]
    by_cases same : other = operationId
    · simp [same]
    · have different : operationId ≠ other := Ne.symm same
      simp [beq_false_of_ne same, different]

theorem Told.add (told : progress.Told description entries) (operation : Operation) :
    (progress.add operation).Told description entries :=
  ⟨told.issues, told.seen⟩

theorem report_nil (progress : Progress) (location : String) :
    progress.report location [] = progress := by
  simp [report]

theorem report_append (progress : Progress) (location : String) (first second : List Defect) :
    progress.report location (first ++ second) =
      (progress.report location first).report location second := by
  simp [report]

theorem Told.step (told : progress.Told description entries) (entry : Endpoint) :
    (step description progress entry).Told description (entries ++ [entry]) := by
  have reads : Progress.step description progress entry = _ :=
    step_eq description progress entry.1 entry.2.1 entry.item entry.operation
  rw [reads]
  cases named : entry.operation.operationId with
  | none =>
      have skipped := told.skip named
      rw [reported_unnamed description named] at skipped
      exact skipped
  | some operationId =>
      have met := told.meet named
      simp only [told.seen]
      cases found : lastNamed? entries operationId with
      | some earlier =>
          rw [reported_repeated description named found] at met
          exact met
      | none =>
          rw [reported_own description named found, report_append, answerDefects] at met
          cases answer : answerOf description entry.operation with
          | ok shape =>
              simp only [answer, report_nil] at met
              exact met.add _
          | error defect =>
              rw [answer] at met
              exact met

theorem foldl_told (description : Description) (entries : List Endpoint) :
    (entries.foldl (step description) start).Told description entries := by
  induction entries using List.reverseRecOn with
  | nil => exact told_start description
  | append_singleton entries entry ih =>
      rw [List.foldl_append]
      exact ih.step entry

end Progress

theorem document_eq_error_iff (description : Description) (error : GenerationError) :
    OpenApi.document description = .error error ↔
      issuesOf description (entries description) ≠ [] ∧
        error = .invalidSchema (issuesOf description (entries description)) := by
  have told := (Progress.foldl_told description (entries description)).issues
  rw [OpenApi.document]
  simp only [told]
  split
  next noIssues => simp [List.isEmpty_iff.mp noIssues]
  next issues =>
      have nonempty : issuesOf description (entries description) ≠ [] := by simpa using issues
      simp [nonempty, eq_comm]

theorem mem_parameterDefects_iff (description : Description)
    (parameters : List (OrReference ParameterObject)) (defect : Defect) :
    defect ∈ parameterDefects description parameters ↔
      ∃ path, .reference path ∈ parameters ∧
        resolveParameter? description (.reference path) = none ∧
        .unresolvedParameter path = defect := by
  rw [parameterDefects, List.mem_filterMap]
  constructor
  · rintro ⟨parameter, isParameter, found⟩
    cases parameter with
    | inline value => simp at found
    | reference path =>
        simp only [Option.isNone_iff_eq_none, Option.ite_none_right_eq_some,
          Option.some.injEq] at found
        exact ⟨path, isParameter, found⟩
  · rintro ⟨path, isParameter, missing, rfl⟩
    exact ⟨.reference path, isParameter, by simp [missing]⟩

theorem mem_answerDefects_iff (description : Description) (operation : OperationObject)
    (defect : Defect) :
    defect ∈ answerDefects description operation ↔
      ∃ text fault, operation.returnType = some text ∧
        TypeExpr.parse (isModelName description.schemas) text = .error fault ∧
        .invalidReturnType text fault = defect := by
  rw [answerDefects, answerOf]
  cases operation.returnType with
  | none => simp
  | some text =>
      cases parsed : TypeExpr.parse (isModelName description.schemas) text with
      | ok type => simp [parsed]
      | error fault => simp [parsed, eq_comm]

theorem mem_idDefects_iff (description : Description) (before : List Endpoint) (entry : Endpoint)
    (defect : Defect) :
    defect ∈ idDefects before entry ↔
      HasDefect description before entry defect ∧ defect.isOfId = true := by
  rw [idDefects]
  constructor
  · intro listed
    split at listed
    next unnamed =>
        obtain rfl := List.mem_singleton.mp listed
        exact ⟨.unnamed unnamed, rfl⟩
    next operationId named =>
        split at listed
        next earlier taken =>
            obtain rfl := List.mem_singleton.mp listed
            exact ⟨.repeated named taken, rfl⟩
        next => simp at listed
  · rintro ⟨has, isOfId⟩
    cases has with
    | unnamed unnamed => simp [unnamed]
    | repeated named taken => simp [named, taken]
    | unresolved _ _ => simp [Defect.isOfId] at isOfId
    | undeclared _ _ => simp [Defect.isOfId] at isOfId

theorem idDefects_eq_nil_iff (before : List Endpoint) (entry : Endpoint) :
    idDefects before entry = [] ↔ entry.HasOwnId before := by
  rw [idDefects, Endpoint.HasOwnId]
  cases entry.operation.operationId with
  | none => simp
  | some operationId =>
      simp only [Option.some.injEq, exists_eq_left', ← lastNamed?_eq_none_iff]
      cases lastNamed? before operationId <;> simp

theorem mem_reported_iff (description : Description) (before : List Endpoint) (entry : Endpoint)
    (defect : Defect) :
    defect ∈ reported description before entry ↔
      HasDefect description before entry defect ∧
        (defect.isOfId = true ∨ entry.HasOwnId before) := by
  have ofId := mem_idDefects_iff description before entry defect
  rw [← idDefects_eq_nil_iff, reported]
  split
  next empty =>
      have noIdDefects := List.isEmpty_iff.mp empty
      rw [noIdDefects, eq_self, or_true, and_true]
      rw [noIdDefects] at ofId
      rw [List.mem_append, entryDefects, List.mem_append, mem_parameterDefects_iff,
        mem_parameterDefects_iff, mem_answerDefects_iff]
      constructor
      · rintro ((⟨path, inherited, missing, rfl⟩ | ⟨path, own, missing, rfl⟩) |
          ⟨text, fault, declared, parsed, rfl⟩)
        · exact .unresolved (List.mem_append_left _ inherited) missing
        · exact .unresolved (List.mem_append_right _ own) missing
        · exact .undeclared declared parsed
      · intro has
        cases has with
        | unnamed unnamed => exact absurd (ofId.mpr ⟨.unnamed unnamed, rfl⟩) (by simp)
        | repeated named taken => exact absurd (ofId.mpr ⟨.repeated named taken, rfl⟩) (by simp)
        | @unresolved path isParameter missing =>
            refine .inl ((List.mem_append.mp isParameter).imp ?_ ?_)
            · exact fun inherited => ⟨path, inherited, missing, rfl⟩
            · exact fun own => ⟨path, own, missing, rfl⟩
        | undeclared declared parsed => exact .inr ⟨_, _, declared, parsed, rfl⟩
  next defective =>
      have nonempty : idDefects before entry ≠ [] := by simpa using defective
      rw [ofId, eq_false nonempty, or_false]

theorem mem_issuesOf_iff (description : Description) (entries : List Endpoint) (issue : Issue) :
    issue ∈ issuesOf description entries ↔
      ∃ before entry after, entries = before ++ entry :: after ∧
        issue.location = entry.location ∧
        HasDefect description before entry issue.defect ∧
        (issue.defect.isOfId = true ∨ entry.HasOwnId before) := by
  rw [issuesOf, List.mem_flatMap]
  constructor
  · rintro ⟨⟨before, entry⟩, placed, listed⟩
    obtain ⟨_, after, split, rfl⟩ := mem_withEarlier_iff.mp placed
    obtain ⟨defect, isListed, rfl⟩ := List.mem_map.mp listed
    exact ⟨_, entry, after, split, rfl, (mem_reported_iff ..).mp isListed⟩
  · rintro ⟨before, entry, after, split, located, listed⟩
    refine ⟨(before, entry), mem_withEarlier_iff.mpr ⟨before, after, split, rfl⟩, ?_⟩
    refine List.mem_map.mpr ⟨issue.defect, (mem_reported_iff ..).mpr listed, ?_⟩
    rw [← located]

def ReportsAll (description : Description) : Prop :=
  ∀ issues, OpenApi.document description = .error (.invalidSchema issues) →
    ∀ before entry after, entries description = before ++ entry :: after →
      ∀ defect, HasDefect description before entry defect → ⟨entry.location, defect⟩ ∈ issues

theorem reportsAll_iff (description : Description)
    (distinct : ((entries description).map Endpoint.location).Nodup) :
    ReportsAll description ↔
      ∀ before entry after, entries description = before ++ entry :: after →
        entry.HasOwnId before ∨
          ∀ defect, HasDefect description before entry defect → defect.isOfId = true := by
  have listed := mem_issuesOf_iff description (entries description)
  constructor
  · intro all before entry after split
    by_contra hidden
    obtain ⟨taken, defect, has, other⟩ : ¬entry.HasOwnId before ∧ ∃ defect,
        HasDefect description before entry defect ∧ defect.isOfId ≠ true := by
      simpa using hidden
    -- What is wrong with the id is reported, so the description is rejected.
    obtain ⟨ofId, isOfId⟩ :=
      List.exists_mem_of_ne_nil _ (mt (idDefects_eq_nil_iff before entry).mp taken)
    have idDefect := (mem_idDefects_iff description ..).mp isOfId
    have reported : ⟨entry.location, ofId⟩ ∈ issuesOf description (entries description) :=
      (listed _).mpr ⟨before, entry, after, split, rfl, idDefect.1, .inl idDefect.2⟩
    have rejected := (document_eq_error_iff description _).mpr ⟨List.ne_nil_of_mem reported, rfl⟩
    obtain ⟨earlier, same, _, place, located, _, shown⟩ :=
      (listed _).mp (all _ rejected before entry after split defect has)
    obtain ⟨rfl, rfl⟩ := split_unique distinct split place located
    exact shown.elim other taken
  · intro shown issues rejected before entry after split defect has
    obtain ⟨_, same⟩ := (document_eq_error_iff description _).mp rejected
    rw [GenerationError.invalidSchema.inj same, listed]
    refine ⟨before, entry, after, split, rfl, has, ?_⟩
    rcases shown before entry after split with own | onlyId
    · exact .inr own
    · exact .inl (onlyId defect has)

/-- A description is rejected just if it has issues, and then with all of them. These are what is
wrong with ids, and whatever else is wrong with an operation that has an id of its own. So where no
two operations are in one place, all defects are reported just if operations without an id of their
own have no other defect. -/
theorem issues_exact (description : Description) :
    (∀ error, OpenApi.document description = .error error ↔
      issuesOf description (entries description) ≠ [] ∧
        error = .invalidSchema (issuesOf description (entries description))) ∧
    (∀ issue, issue ∈ issuesOf description (entries description) ↔
      ∃ before entry after, entries description = before ++ entry :: after ∧
        issue.location = entry.location ∧
        HasDefect description before entry issue.defect ∧
        (issue.defect.isOfId = true ∨ entry.HasOwnId before)) ∧
    (((entries description).map Endpoint.location).Nodup →
      (ReportsAll description ↔
        ∀ before entry after, entries description = before ++ entry :: after →
          entry.HasOwnId before ∨
            ∀ defect, HasDefect description before entry defect → defect.isOfId = true)) :=
  ⟨document_eq_error_iff description, mem_issuesOf_iff description _, reportsAll_iff description⟩

def draft (lastId : Option String) : Description :=
  let listPets : OperationObject :=
    { OperationObject.ofId "" with operationId := lastId, returnType := some "List<" }
  { title := "Draft", version := "1", schemas := [], parameters := []
    paths :=
      [readPath "/owners" (.ofId "listOwners"),
        ("/pets", ⟨[.reference "#/components/parameters/Page"], [("get", listPets)]⟩)] }

theorem draft_issues_exact :
    ((entries (draft (some "listPets"))).map Endpoint.location).Nodup ∧
    OpenApi.document (draft (some "listPets")) = .error (.invalidSchema
      [⟨"paths./pets.get", .unresolvedParameter "#/components/parameters/Page"⟩,
        ⟨"paths./pets.get", .invalidReturnType "List<" ⟨.missingName, 5⟩⟩]) ∧
    ReportsAll (draft (some "listPets")) := by
  have distinct : ((entries (draft (some "listPets"))).map Endpoint.location).Nodup := by
    decide +kernel
  have own : ∀ pair ∈ withEarlier [] (entries (draft (some "listPets"))),
      idDefects pair.1 pair.2 = [] := by
    decide +kernel
  obtain ⟨rejected, _, shown⟩ := issues_exact (draft (some "listPets"))
  refine ⟨distinct, (rejected _).mpr ⟨by decide +kernel, by decide +kernel⟩,
    (shown distinct).mpr ?_⟩
  intro before entry after split
  have placed : (before, entry) ∈ withEarlier [] (entries (draft (some "listPets"))) :=
    mem_withEarlier_iff.mpr ⟨before, after, split, rfl⟩
  exact .inl ((idDefects_eq_nil_iff before entry).mp (own _ placed))

/-- Without an id, or with one that is taken, the same operation has one issue instead of these two.
-/
theorem draft_hides_defects :
    (OpenApi.document (draft none) = .error (.invalidSchema
        [⟨"paths./pets.get", .missingOperationId⟩]) ∧ ¬ReportsAll (draft none)) ∧
    OpenApi.document (draft (some "listOwners")) = .error (.invalidSchema
        [⟨"paths./pets.get", .duplicateOperationId "listOwners" "paths./owners.get"⟩]) ∧
      ¬ReportsAll (draft (some "listOwners")) := by
  have unnamed : OpenApi.document (draft none) = .error (.invalidSchema
      [⟨"paths./pets.get", .missingOperationId⟩]) :=
    (document_eq_error_iff ..).mpr ⟨by decide +kernel, by decide +kernel⟩
  have repeated : OpenApi.document (draft (some "listOwners")) = .error (.invalidSchema
      [⟨"paths./pets.get", .duplicateOperationId "listOwners" "paths./owners.get"⟩]) :=
    (document_eq_error_iff ..).mpr ⟨by decide +kernel, by decide +kernel⟩
  have hidden (lastId : Option String) {issues : List Issue}
      (rejected : OpenApi.document (draft lastId) = .error (.invalidSchema issues))
      (missing : ⟨"paths./pets.get", .unresolvedParameter "#/components/parameters/Page"⟩ ∉ issues) :
      ¬ReportsAll (draft lastId) := by
    intro all
    refine missing (all issues rejected [_] _ [] rfl _ ?_)
    exact .unresolved List.mem_cons_self rfl
  exact ⟨⟨unnamed, hidden none unnamed (by simp)⟩, repeated,
    hidden (some "listOwners") repeated (by simp)⟩

end OpenApi

end ApiContracts
