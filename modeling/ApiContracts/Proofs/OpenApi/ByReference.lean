import ApiContracts.OpenApi.Decode
import ApiContracts.Proofs.OpenApi.Keyed
import ApiContracts.Proofs.OpenApi.Places
import ApiContracts.Proofs.OpenApi.Typing
import ApiContracts.Proofs.Plan.Outcome

/-!
Bodies and responses that operations give by reference. They are as good as not there, and nothing
is reported. What is described in place is read, and parameters by reference are read or reported.
-/

namespace ApiContracts.OpenApi

def OrReference.isInline {α : Type} : OrReference α → Bool
  | .inline _ => true
  | .reference _ => false

def OperationObject.inPlace (operation : OperationObject) : OperationObject :=
  { operation with
    requestBody := operation.requestBody.filter (·.isInline)
    responses := operation.responses.filter (·.2.isInline) }

def Description.inPlace (description : Description) : Description :=
  { description with
    paths := description.paths.map fun (path, item) =>
      (path, { item with
        operations := item.operations.map fun (verb, operation) => (verb, operation.inPlace) }) }

theorem requestBodyOf_inPlace (schemas : Schemas) (operation : OperationObject) :
    requestBodyOf schemas operation.inPlace = requestBodyOf schemas operation := by
  rw [requestBodyOf, requestBodyOf, OperationObject.inPlace]
  cases operation.requestBody with
  | none => rfl
  | some given =>
      cases given with
      | inline body => rfl
      | reference path => rfl

theorem successes_inPlace (responses : List (String × OrReference ResponseObject)) :
    successes (responses.filter (·.2.isInline)) = successes responses := by
  rw [successes, successes, List.filterMap_filter]
  refine List.filterMap_congr ?_
  rintro ⟨status, response⟩ _
  cases response with
  | inline response => rfl
  | reference path =>
      simp only [OrReference.isInline, Bool.false_eq_true, ↓reduceIte]
      cases statusCode? status <;> rfl

theorem answerOf_inPlace (description : Description) (operation : OperationObject) :
    answerOf description.inPlace operation.inPlace = answerOf description operation := by
  have described : responseShape description.inPlace.schemas operation.inPlace =
      responseShape description.schemas operation := by
    rw [responseShape, responseShape, OperationObject.inPlace, successes_inPlace]
    rfl
  rw [answerOf, answerOf, described]
  rfl

def Endpoint.inPlace : Endpoint → Endpoint
  | (path, verb, item, operation) =>
    (path, verb, { item with
      operations := item.operations.map fun (verb, operation) => (verb, operation.inPlace) },
      operation.inPlace)

theorem entries_inPlace (description : Description) :
    entries description.inPlace = (entries description).map Endpoint.inPlace := by
  simp [entries, Description.inPlace, Endpoint.inPlace, List.flatMap_map, List.map_flatMap,
    Function.comp_def]

theorem operationOf_inPlace (description : Description) (operationId : String)
    (answer : ResponseShape) (entry : Endpoint) :
    operationOf description.inPlace operationId answer entry.inPlace =
      operationOf description operationId answer entry := by
  obtain ⟨path, verb, item, operation⟩ := entry
  simp only [operationOf, Endpoint.inPlace]
  rw [show requestBodyOf description.inPlace.schemas operation.inPlace = _ from
    requestBodyOf_inPlace description.schemas operation]
  rfl

theorem step_inPlace (description : Description) (progress : Progress) (entry : Endpoint) :
    Progress.step description.inPlace progress entry.inPlace =
      Progress.step description progress entry := by
  obtain ⟨path, verb, item, operation⟩ := entry
  have made := fun operationId answer =>
    operationOf_inPlace description operationId answer (path, verb, item, operation)
  rw [Endpoint.inPlace] at made ⊢
  rw [Progress.step_eq, Progress.step_eq, answerOf_inPlace]
  simp only [made]
  rfl

theorem document_inPlace (description : Description) :
    OpenApi.document description.inPlace = OpenApi.document description := by
  rw [OpenApi.document, OpenApi.document, entries_inPlace, List.foldl_map]
  simp only [step_inPlace]
  rfl

theorem exists_of_mergeParameters {inherited own : List Parameter} {parameter : Parameter}
    (there : parameter ∈ inherited ∨ parameter ∈ own) :
    ∃ kept ∈ mergeParameters inherited own, parameterKey kept = parameterKey parameter := by
  rw [← List.mem_map, mergeParameters_eq, mem_putAllBy_keys]
  exact there.symm.imp List.mem_map_of_mem List.mem_map_of_mem

theorem resolved_of_no_defects {description : Description}
    {parameters : List (OrReference ParameterObject)}
    (clean : parameterDefects description parameters = []) {parameter : OrReference ParameterObject}
    (isParameter : parameter ∈ parameters) :
    ∃ resolved, resolveParameter? description parameter = some resolved := by
  cases parameter with
  | inline value => exact ⟨value, rfl⟩
  | reference path =>
      rw [parameterDefects, List.filterMap_eq_nil_iff] at clean
      have found := clean _ isParameter
      cases resolved : resolveParameter? description (.reference path) with
      | some value => exact ⟨value, rfl⟩
      | none => simp [resolved] at found

theorem mem_resolvedParameters {description : Description}
    {parameters : List (OrReference ParameterObject)} {parameter : OrReference ParameterObject}
    {resolved : ParameterObject} (isParameter : parameter ∈ parameters)
    (resolves : resolveParameter? description parameter = some resolved) :
    parameterOf description.schemas resolved ∈ resolvedParameters description parameters :=
  List.mem_map_of_mem (List.mem_filterMap.mpr ⟨parameter, isParameter, resolves⟩)

def IsSuccess (status : String) (code : Nat) : Prop :=
  statusCode? status = some code ∧ 200 ≤ code ∧ code < 300

def OperationObject.Succeeds (operation : OperationObject) (response : ResponseObject) : Prop :=
  ∃ status code, (status, .inline response) ∈ operation.responses ∧ IsSuccess status code

theorem mem_successes_iff (operation : OperationObject) (code : Nat) (response : ResponseObject) :
    (code, response) ∈ successes operation.responses ↔
      ∃ status, (status, .inline response) ∈ operation.responses ∧ IsSuccess status code := by
  rw [successes, List.mem_filterMap]
  constructor
  · rintro ⟨⟨status, described⟩, isResponse, found⟩
    dsimp only at found
    split at found
    next other inPlace here =>
        split at found
        next success =>
            obtain ⟨rfl, rfl⟩ := Prod.mk.inj (Option.some.inj found)
            rw [Bool.and_eq_true, decide_eq_true_eq, decide_eq_true_eq] at success
            exact ⟨status, isResponse, here, success⟩
        next => simp at found
    next => simp at found
  · rintro ⟨status, isResponse, coded, low, high⟩
    exact ⟨_, isResponse, by simp [coded, low, high]⟩

theorem mem_sorted_iff (operation : OperationObject) (response : ResponseObject) :
    (∃ code, (code, response) ∈ (successes operation.responses).mergeSort
      fun a b => codeBefore a.1 b.1) ↔ operation.Succeeds response := by
  simp only [List.mem_mergeSort, mem_successes_iff, OperationObject.Succeeds]
  exact exists_comm

theorem successSchema?_eq_none_iff (operation : OperationObject) :
    successSchema? operation = none ↔
      ∀ response, operation.Succeeds response → jsonSchema? response.content = none := by
  simp only [successSchema?, List.findSome?_eq_none_iff, ← mem_sorted_iff]
  constructor
  · rintro schemaless response ⟨code, isSuccess⟩
    exact schemaless _ isSuccess
  · rintro schemaless ⟨code, response⟩ isSuccess
    exact schemaless response ⟨code, isSuccess⟩

theorem exists_of_successSchema? {operation : OperationObject} {schema : Schema}
    (found : successSchema? operation = some schema) :
    ∃ response, operation.Succeeds response ∧ jsonSchema? response.content = some schema := by
  obtain ⟨⟨code, response⟩, isSuccess, described⟩ := List.exists_of_findSome?_eq_some found
  exact ⟨response, (mem_sorted_iff operation response).mp ⟨code, isSuccess⟩, described⟩

theorem neverUnit_formed : Formed (· ≠ .scalar .unit) where
  scalar s other := by simpa using other
  reference name := by simp
  array type _ := by simp
  map type _ := by simp

theorem ofType_eq_void_iff (type : TypeExpr) :
    ResponseShape.ofType type = .void ↔ type = .scalar .unit := by
  cases type with
  | scalar s => cases s <;> simp [ResponseShape.ofType]
  | reference name => simp [ResponseShape.ofType]
  | array element => simp [ResponseShape.ofType]
  | map key value => simp [ResponseShape.ofType]

/-- What an accepted operation has of its description: all parameters, those by reference as well,
but of its body and its responses only what is described in place. -/
structure Keeps (description : Description) (entry : Endpoint) (operation : Operation) : Prop where
  parameters : ∀ parameter ∈ entry.2.2.1.parameters ++ entry.2.2.2.parameters,
    ∃ resolved, resolveParameter? description parameter = some resolved ∧
      ∃ kept ∈ operation.parameters,
        kept.name = resolved.name ∧ kept.location = resolved.location
  body : operation.requestBody.map (·.type) =
    (bodySchema? entry.2.2.2).map fun schema => (typeOf description.schemas schema).type
  silent : entry.2.2.2.returnType = none →
    (operation.response = .void ↔
      ∀ response, entry.2.2.2.Succeeds response → jsonSchema? response.content = none)
  answer : entry.2.2.2.returnType = none → operation.response ≠ .void →
    ∃ response schema, entry.2.2.2.Succeeds response ∧
      jsonSchema? response.content = some schema ∧
        operation.response = .ofType (typeOf description.schemas schema).type

theorem Describes.response {description : Description} {entry : Endpoint} {operation : Operation}
    (describes : Describes description entry operation)
    (undeclared : entry.2.2.2.returnType = none) :
    operation.response = responseShape description.schemas entry.2.2.2 := by
  have answered := describes.answered
  rw [answerOf, undeclared] at answered
  exact (Except.ok.inj answered).symm

theorem Describes.keeps {description : Description} {entry : Endpoint} {operation : Operation}
    (describes : Describes description entry operation) : Keeps description entry operation := by
  obtain ⟨path, verb, item, source⟩ := entry
  refine ⟨?_, ?_, ?_, ?_⟩
  · intro parameter isParameter
    have clean := List.append_eq_nil_iff.mp describes.resolved
    rw [← describes.same]
    have merged {resolved : ParameterObject}
        (there : parameterOf description.schemas resolved ∈
            resolvedParameters description item.parameters ∨
          parameterOf description.schemas resolved ∈
            resolvedParameters description source.parameters) :
        ∃ kept ∈ mergeParameters (resolvedParameters description item.parameters)
            (resolvedParameters description source.parameters),
          kept.name = resolved.name ∧ kept.location = resolved.location := by
      obtain ⟨kept, isKept, same⟩ := exists_of_mergeParameters there
      exact ⟨kept, isKept, Prod.mk.inj same⟩
    rcases List.mem_append.mp isParameter with inherited | own
    · obtain ⟨resolved, resolves⟩ := resolved_of_no_defects clean.1 inherited
      exact ⟨resolved, resolves, merged (.inl (mem_resolvedParameters inherited resolves))⟩
    · obtain ⟨resolved, resolves⟩ := resolved_of_no_defects clean.2 own
      exact ⟨resolved, resolves, merged (.inr (mem_resolvedParameters own resolves))⟩
  · rw [← describes.same]
    exact requestBodyOf_type description.schemas source
  · intro undeclared
    rw [describes.response undeclared, responseShape_eq, ← successSchema?_eq_none_iff]
    cases successSchema? source with
    | none => simp
    | some schema =>
        have typed : (typeOf description.schemas schema).type ≠ .scalar .unit :=
          neverUnit_formed.typing description.schemas (maxAliasDepth + 1) schema
        simpa [ofType_eq_void_iff] using typed
  · intro undeclared answers
    rw [describes.response undeclared, responseShape_eq] at answers ⊢
    cases found : successSchema? source with
    | none => simp [found] at answers
    | some schema =>
        obtain ⟨response, succeeds, described⟩ := exists_of_successSchema? found
        exact ⟨response, schema, succeeds, described, rfl⟩

/-- Bodies and responses given by reference count for nothing: without them a description gives the
same document or the same issues. An accepted operation has all of its parameters and what is
described in place of its body and its responses. -/
theorem references_dropped (description : Description) :
    OpenApi.document description.inPlace = OpenApi.document description ∧
    ∀ document, OpenApi.document description = .ok document →
      List.Forall₂ (Keeps description) (entries description) document.operations := by
  refine ⟨document_inPlace description, ?_⟩
  intro document accepted
  exact (document_describes accepted).2.imp fun _ _ describes => describes.keeps

def component? (value : Json) (kind path : String) : Option Json :=
  (dropStart? ("#/components/" ++ kind ++ "/") path).bind fun name =>
    (value.member? "components").bind fun components =>
      (components.member? kind).bind (·.member? name)

def EachOperation (value : Json) (rule : Description → OperationObject → Operation → Prop) : Prop :=
  ∀ description document, OpenApi.description value = some description →
    OpenApi.document description = .ok document →
      List.Forall₂ (fun entry operation => rule description entry.2.2.2 operation)
        (entries description) document.operations

def ReadsBodies (value : Json) : Prop :=
  EachOperation value fun description source operation =>
    ∀ path body schema, source.requestBody = some (.reference path) →
      (component? value "requestBodies" path).bind requestBody = some body →
      jsonSchema? body.content = some schema →
        operation.requestBody.map (·.type) = some (typeOf description.schemas schema).type

def ReadsAnswers (value : Json) : Prop :=
  EachOperation value fun description source operation =>
    ∀ status code path answer schema, source.returnType = none →
      (status, .reference path) ∈ source.responses → IsSuccess status code →
      (∀ other ∈ source.responses, ∀ another, IsSuccess other.1 another →
        other = (status, .reference path) ∨ codeBefore another code = false) →
      (component? value "responses" path).bind response = some answer →
      jsonSchema? answer.content = some schema →
        operation.response = .ofType (typeOf description.schemas schema).type

def stallText : Json :=
  let refer (kind name : String) : Json :=
    .object [("$ref", .string ("#/components/" ++ kind ++ "/" ++ name))]
  let pet : Json := .object
    [("content", .object [("application/json", .object [("schema", refer "schemas" "Pet")])])]
  .object
    [("components", .object
      [("parameters", .object
          [("Trace", .object [("in", .string "header"), ("name", .string "trace")])]),
        ("requestBodies", .object [("PetBody", pet)]),
        ("responses", .object [("PetFound", pet)]),
        ("schemas", .object [("Pet", .object [("type", .string "object")])])]),
      ("info", .object [("title", .string "Shop"), ("version", .string "1")]),
      ("openapi", .string "3.1.0"),
      ("paths", .object [("/pet", .object
        [("parameters", .array [refer "parameters" "Trace"]),
          ("post", .object
            [("operationId", .string "addPet"),
              ("requestBody", refer "requestBodies" "PetBody"),
              ("responses", .object [("200", refer "responses" "PetFound")])]),
          ("put", .object
            [("operationId", .string "changePet"), ("requestBody", pet),
              ("responses", .object [("200", pet)])])])])]

def petContent : Content := jsonContent (.reference "#/components/schemas/Pet" none)

def postPet : OperationObject :=
  { OperationObject.ofId "addPet" with
    requestBody := some (.reference "#/components/requestBodies/PetBody")
    responses := [("200", .reference "#/components/responses/PetFound")] }

def changePet : OperationObject :=
  { OperationObject.ofId "changePet" with
    requestBody := some (.inline ⟨petContent, none⟩), responses := [("200", .inline ⟨petContent⟩)] }

def stall : Description :=
  { title := "Shop", version := "1"
    paths :=
      [("/pet",
        { parameters := [.reference "#/components/parameters/Trace"]
          operations := [("put", changePet), ("post", postPet)] })]
    schemas := [("Pet", .object (.ofWord "object"))]
    parameters := [("Trace", .inline ⟨"trace", .header, none, none⟩)] }

theorem stall_decoded : OpenApi.description stallText = some stall := rfl

theorem stall_references_dropped : ∃ document, OpenApi.document stall = .ok document ∧
    OpenApi.document stall.inPlace = .ok document ∧
    List.Forall₂ (Keeps stall) (entries stall) document.operations := by
  have made : (OpenApi.document stall).isOk = true := by decide +kernel
  obtain ⟨document, accepted⟩ := exists_of_isOk made
  obtain ⟨same, keeps⟩ := references_dropped stall
  exact ⟨document, accepted, same.trans accepted, keeps document accepted⟩

theorem stall_operations : ∃ document, OpenApi.document stall = .ok document ∧
    document.operations.map (fun operation =>
        (operation.operationId, operation.requestBody.map (·.type), operation.response)) =
      [("changePet", some (.reference "Pet"), .single (.reference "Pet")),
        ("addPet", none, .void)] := by
  have made : (OpenApi.document stall).isOk = true := by decide +kernel
  obtain ⟨document, accepted⟩ := exists_of_isOk made
  have answers : ((OpenApi.document stall).toOption.map fun document =>
      document.operations.map fun operation =>
        (operation.operationId, operation.requestBody.map (·.type), operation.response)) =
      some [("changePet", some (.reference "Pet"), .single (.reference "Pet")),
        ("addPet", none, .void)] := by
    decide +kernel
  rw [accepted] at answers
  exact ⟨document, accepted, Option.some.inj answers⟩

theorem EachOperation.of_addPet {rule : Description → OperationObject → Operation → Prop}
    (each : EachOperation stallText rule) :
    ∃ operation : Operation, operation.requestBody.map (·.type) = none ∧
      operation.response = .void ∧ rule stall postPet operation := by
  obtain ⟨document, accepted, answers⟩ := stall_operations
  have pairs := each stall document stall_decoded accepted
  obtain ⟨changed, others, split, _, rest⟩ := List.map_eq_cons_iff.mp answers
  obtain ⟨added, _, rfl, summary, _⟩ := List.map_eq_cons_iff.mp rest
  rw [split] at pairs
  obtain ⟨_, body, answer⟩ : _ ∧ _ ∧ _ := by simpa using summary
  cases pairs with
  | cons _ pairs =>
      cases pairs with
      | cons holds _ => exact ⟨added, by simp [body], answer, holds⟩

theorem stall_loses_pet :
    OpenApi.description stallText = some stall ∧
    (∃ document, OpenApi.document stall = .ok document ∧
      document.operations.map (fun operation =>
          (operation.operationId, operation.requestBody.map (·.type), operation.response)) =
        [("changePet", some (.reference "Pet"), .single (.reference "Pet")),
          ("addPet", none, .void)]) ∧
    ¬ReadsBodies stallText ∧ ¬ReadsAnswers stallText := by
  refine ⟨stall_decoded, stall_operations, ?_, ?_⟩
  · intro reads
    obtain ⟨operation, bodiless, _, holds⟩ := EachOperation.of_addPet reads
    have read := holds "#/components/requestBodies/PetBody" ⟨petContent, none⟩
      (.reference "#/components/schemas/Pet" none) rfl rfl rfl
    simp [bodiless] at read
  · intro reads
    obtain ⟨operation, _, silent, holds⟩ := EachOperation.of_addPet reads
    have read := holds "200" 200 "#/components/responses/PetFound" ⟨petContent⟩
      (.reference "#/components/schemas/Pet" none) rfl List.mem_cons_self ⟨rfl, by decide, by decide⟩
      (fun other isOther _ _ => .inl (List.mem_singleton.mp isOther)) rfl rfl
    rw [silent] at read
    exact absurd read (by decide +kernel)

end ApiContracts.OpenApi
