import ApiContracts.Proofs.OpenApi.Keyed
import Mathlib.Data.List.Forall2

/-!
What the document of an accepted description is made of: the models among its schemas, and for each
of its operations, in order, the operation that it describes.
-/

namespace ApiContracts.OpenApi

abbrev Endpoint := String × String × PathItem × OperationObject

def locationOf (path verb : String) : String := "paths." ++ path ++ "." ++ verb

def answerOf (description : Description) (operation : OperationObject) :
    Except Defect ResponseShape :=
  match operation.returnType with
  | none => .ok (responseShape description.schemas operation)
  | some text =>
    match TypeExpr.parse (isModelName description.schemas) text with
    | .ok type => .ok (ResponseShape.ofType type)
    | .error fault => .error (.invalidReturnType text fault)

def entryDefects (description : Description) : Endpoint → List Defect
  | (_, _, item, operation) =>
    parameterDefects description item.parameters ++
      parameterDefects description operation.parameters

def operationOf (description : Description) (operationId : String) (answer : ResponseShape) :
    Endpoint → Operation
  | (path, verb, item, operation) =>
    { operationId
      method := ⟨String.ofList (verb.toList.map Char.toUpper)⟩
      path
      summary := operation.summary
      tags := operation.tags
      parameters :=
        mergeParameters (resolvedParameters description item.parameters)
          (resolvedParameters description operation.parameters)
      requestBody := requestBodyOf description.schemas operation
      response := answer }

namespace Progress

def meet (progress : Progress) (operationId location : String) : Progress :=
  { progress with seen := (operationId, location) :: progress.seen }

def add (progress : Progress) (operation : Operation) : Progress :=
  { progress with operations := progress.operations ++ [operation] }

@[simp] theorem report_issues (progress : Progress) (location : String) (defects : List Defect) :
    (progress.report location defects).issues =
      progress.issues ++ defects.map (Issue.mk location) := rfl

@[simp] theorem report_operations (progress : Progress) (location : String)
    (defects : List Defect) :
    (progress.report location defects).operations = progress.operations := rfl

@[simp] theorem meet_issues (progress : Progress) (operationId location : String) :
    (progress.meet operationId location).issues = progress.issues := rfl

@[simp] theorem meet_operations (progress : Progress) (operationId location : String) :
    (progress.meet operationId location).operations = progress.operations := rfl

@[simp] theorem add_issues (progress : Progress) (operation : Operation) :
    (progress.add operation).issues = progress.issues := rfl

@[simp] theorem add_operations (progress : Progress) (operation : Operation) :
    (progress.add operation).operations = progress.operations ++ [operation] := rfl

def settle (progress : Progress) (location : String) (make : ResponseShape → Operation) :
    Except Defect ResponseShape → Progress
  | .error defect => progress.report location [defect]
  | .ok answer => progress.add (make answer)

/-- All that reading one more operation can come to. -/
inductive Reads (description : Description) (progress : Progress) : Endpoint → Progress → Prop
  | unnamed {path verb item operation} :
      operation.operationId = none →
      Reads description progress (path, verb, item, operation)
        (progress.report (locationOf path verb) [.missingOperationId])
  | repeated {path verb item operation operationId previous} :
      operation.operationId = some operationId →
      progress.seen.lookup operationId = some previous →
      Reads description progress (path, verb, item, operation)
        ((progress.meet operationId (locationOf path verb)).report (locationOf path verb)
          [.duplicateOperationId operationId previous])
  | unanswered {path verb item operation operationId defect} :
      operation.operationId = some operationId →
      progress.seen.lookup operationId = none →
      answerOf description operation = .error defect →
      Reads description progress (path, verb, item, operation)
        (((progress.meet operationId (locationOf path verb)).report (locationOf path verb)
          (entryDefects description (path, verb, item, operation))).report (locationOf path verb)
            [defect])
  | answered {path verb item operation operationId answer} :
      operation.operationId = some operationId →
      progress.seen.lookup operationId = none →
      answerOf description operation = .ok answer →
      Reads description progress (path, verb, item, operation)
        (((progress.meet operationId (locationOf path verb)).report (locationOf path verb)
          (entryDefects description (path, verb, item, operation))).add
            (operationOf description operationId answer (path, verb, item, operation)))

theorem step_eq (description : Description) (progress : Progress) (path verb : String)
    (item : PathItem) (operation : OperationObject) :
    step description progress (path, verb, item, operation) =
      match operation.operationId with
      | none => progress.report (locationOf path verb) [.missingOperationId]
      | some operationId =>
        match progress.seen.lookup operationId with
        | some previous =>
          (progress.meet operationId (locationOf path verb)).report (locationOf path verb)
            [.duplicateOperationId operationId previous]
        | none =>
          settle ((progress.meet operationId (locationOf path verb)).report (locationOf path verb)
              (entryDefects description (path, verb, item, operation)))
            (locationOf path verb)
            (operationOf description operationId · (path, verb, item, operation))
            (answerOf description operation) := by
  rw [step]
  cases operation.operationId with
  | none => rfl
  | some operationId =>
      cases known : progress.seen.lookup operationId with
      | some previous =>
          simp only [known]
          rfl
      | none =>
          simp only [known]
          rfl

theorem step_reads (description : Description) (progress : Progress) (entry : Endpoint) :
    Reads description progress entry (step description progress entry) := by
  obtain ⟨path, verb, item, operation⟩ := entry
  rw [step_eq]
  split
  next named => exact .unnamed named
  next operationId named =>
      split
      next previous known => exact .repeated named known
      next known =>
          cases answer : answerOf description operation with
          | error defect => exact .unanswered named known answer
          | ok shape => exact .answered named known answer

end Progress

/-- The operation is the one that the entry describes, and nothing is wrong with it. -/
structure Describes (description : Description) (entry : Endpoint) (operation : Operation) : Prop where
  named : entry.2.2.2.operationId = some operation.operationId
  answered : answerOf description entry.2.2.2 = .ok operation.response
  resolved : entryDefects description entry = []
  same : operationOf description operation.operationId operation.response entry = operation

namespace Progress

theorem Reads.clean {description : Description} {progress after : Progress} {entry : Endpoint}
    (reads : Reads description progress entry after) (clean : after.issues = []) :
    progress.issues = [] ∧ ∃ operation, Describes description entry operation ∧
      after.operations = progress.operations ++ [operation] := by
  cases reads with
  | unnamed _ => simp at clean
  | repeated _ _ => simp at clean
  | unanswered _ _ _ => simp at clean
  | answered named known answered =>
      simp only [add_issues, report_issues, meet_issues, List.append_eq_nil_iff,
        List.map_eq_nil_iff] at clean
      exact ⟨clean.1, _, ⟨named, answered, clean.2, rfl⟩, rfl⟩

theorem foldl_clean {description : Description} {progress : Progress} {entries : List Endpoint}
    (clean : (entries.foldl (step description) progress).issues = []) :
    progress.issues = [] ∧ ∃ made, List.Forall₂ (Describes description) entries made ∧
      (entries.foldl (step description) progress).operations = progress.operations ++ made := by
  induction entries generalizing progress with
  | nil => exact ⟨clean, [], .nil, (List.append_nil _).symm⟩
  | cons entry rest ih =>
      rw [List.foldl_cons] at clean ⊢
      obtain ⟨cleanStep, made, described, whole⟩ := ih clean
      obtain ⟨cleanStart, operation, first, added⟩ :=
        (step_reads description progress entry).clean cleanStep
      refine ⟨cleanStart, operation :: made, .cons first described, ?_⟩
      rw [whole, added, List.append_assoc, List.singleton_append]

end Progress

theorem document_describes {description : Description} {document : Document}
    (accepted : OpenApi.document description = .ok document) :
    document.models = modelsOf description.schemas ∧
      List.Forall₂ (Describes description) (entries description) document.operations := by
  rw [OpenApi.document] at accepted
  split at accepted
  next clean =>
      obtain rfl := Except.ok.inj accepted
      obtain ⟨_, made, described, whole⟩ := Progress.foldl_clean (List.isEmpty_iff.mp clean)
      refine ⟨rfl, ?_⟩
      rw [whole]
      exact described
  next => simp at accepted

theorem exists_entry {description : Description} {entries : List Endpoint}
    {operations : List Operation}
    (described : List.Forall₂ (Describes description) entries operations) {operation : Operation}
    (isOperation : operation ∈ operations) :
    ∃ entry ∈ entries, Describes description entry operation := by
  induction described with
  | nil => simp at isOperation
  | @cons entry first _ _ describes _ ih =>
      rcases List.mem_cons.mp isOperation with rfl | later
      · exact ⟨entry, by simp, describes⟩
      · obtain ⟨entry, isEntry, describes⟩ := ih later
        exact ⟨entry, by simp [isEntry], describes⟩

theorem modelOf_name (schemas : Schemas) (name : String) (schema : Schema) :
    (modelOf schemas name schema).name = name := by
  cases schema <;> rfl

theorem exists_model {schemas : Schemas} {name : String}
    (isModel : isModelName schemas name = true) :
    ∃ model ∈ modelsOf schemas, model.name = name := by
  obtain ⟨schema, found, modelled⟩ := (Option.any_eq_true _ _).mp isModel
  refine ⟨modelOf schemas name schema, ?_, modelOf_name schemas name schema⟩
  exact List.mem_map.mpr
    ⟨(name, schema), List.mem_filter.mpr ⟨mem_of_lookup found, modelled⟩, rfl⟩

/-! ### Parts of sample descriptions -/

def answers? (description : Description) : Option (List ResponseShape) :=
  (OpenApi.document description).toOption.map fun document => document.operations.map (·.response)

def Keywords.ofWord {σ : Type} (word : String) : Keywords σ :=
  { type := some (.one word), format := none, description := none, pattern := none
    constraints := .none, enumeration := [], required := [], properties := [], allOf := []
    anyOf := [], oneOf := [], items := none, additionalProperties := none }

def OperationObject.ofId (operationId : String) : OperationObject :=
  { operationId := some operationId, summary := none, tags := [], parameters := []
    requestBody := none, responses := [], returnType := none }

def readPath (path : String) (operation : OperationObject) : String × PathItem :=
  (path, ⟨[], [("get", operation)]⟩)

def jsonContent (schema : Schema) : Content := [("application/json", ⟨some schema⟩)]

end ApiContracts.OpenApi
