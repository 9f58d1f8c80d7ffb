import ApiContracts.Proofs.OpenApi.Acceptance
import ApiContracts.Proofs.OpenApi.Reference
import ApiContracts.Proofs.OpenApi.Success
import ApiContracts.Proofs.Plan.Outcome
import ApiContracts.Proofs.Types.RoundTrip

/-!
The two ways to say that an operation answers a model: by the model's name as the declared result,
and by a reference to it as the schema of the response to code 200.
-/

namespace ApiContracts

namespace TypeExpr

/-- A name that is declared by itself: a path that no container goes by. -/
structure Declarable (name : String) : Prop where
  nonempty : name ≠ ""
  isRun : PathRun name.toList
  notArray : String.ofList (Scalar.lastSegment name.toList) ∉ arrayContainers
  notMap : String.ofList (Scalar.lastSegment name.toList) ∉ mapContainers

instance (name : String) : Decidable (Declarable name) :=
  decidable_of_iff (name ≠ "" ∧ PathRun name.toList ∧
      String.ofList (Scalar.lastSegment name.toList) ∉ arrayContainers ∧
      String.ofList (Scalar.lastSegment name.toList) ∉ mapContainers)
    ⟨fun ⟨nonempty, isRun, notArray, notMap⟩ => ⟨nonempty, isRun, notArray, notMap⟩,
      fun declarable => ⟨declarable.nonempty, declarable.isRun, declarable.notArray,
        declarable.notMap⟩⟩

theorem meaning_reference {isModel : String → Bool} {run : List Char} {arguments : List Phrase}
    {types : List TypeExpr} {name : String}
    (means : meaning isModel run arguments types = some (reference name)) :
    types = [] ∧ String.ofList run = name ∧
      String.ofList (Scalar.lastSegment run) ∉ arrayContainers ∧
      String.ofList (Scalar.lastSegment run) ∉ mapContainers := by
  -- Of the rules for a phrase, the first three give bytes, arrays and maps, and the last three
  -- give a reference only where there are no arguments.
  simp only [meaning] at means
  split at means
  · simp at means
  split at means
  · split at means <;> simp at means
  split at means
  · split at means <;> simp at means
  rename_i notArray notMap
  split at means
  next bare => exact ⟨bare.1, reference.inj (Option.some.inj means), notArray, notMap⟩
  next =>
      split at means
      · simp at means
      split at means
      next noScalar => exact ⟨noScalar, reference.inj (Option.some.inj means), notArray, notMap⟩
      next => simp at means

theorem Arguments.values_ne_nil {isModel : String → Bool} {arguments : Arguments}
    {types : List TypeExpr} (values : arguments.values isModel = some types) : types ≠ [] := by
  cases arguments with
  | last phrase =>
      obtain ⟨type, _, rfl⟩ := Option.map_eq_some_iff.mp values
      simp
  | more phrase others =>
      obtain ⟨first, _, rest⟩ := Option.bind_eq_some_iff.mp values
      obtain ⟨later, _, rfl⟩ := Option.map_eq_some_iff.mp rest
      simp

theorem value_reference {isModel : String → Bool} {phrase : Phrase} {name : String}
    (value : phrase.value isModel = some (reference name)) :
    phrase = .path name.toList ∧
      String.ofList (Scalar.lastSegment name.toList) ∉ arrayContainers ∧
      String.ofList (Scalar.lastSegment name.toList) ∉ mapContainers := by
  cases phrase with
  | unit => simp [Phrase.value] at value
  | path run =>
      obtain ⟨-, rfl, notArray, notMap⟩ := meaning_reference value
      rw [String.toList_ofList]
      exact ⟨rfl, notArray, notMap⟩
  | applied run arguments =>
      rw [Phrase.value, Option.bind_eq_some_iff] at value
      obtain ⟨types, values, means⟩ := value
      exact absurd (meaning_reference means).1 (Arguments.values_ne_nil values)

theorem parse_reference_iff {isModel : String → Bool} {name : String}
    (model : isModel name = true) :
    parse isModel name = .ok (reference name) ↔ Declarable name := by
  rw [parse_eq_ok_iff]
  constructor
  · rintro ⟨phrase, spelled, value⟩
    obtain ⟨rfl, notArray, notMap⟩ := value_reference value
    obtain ⟨rest, _, nonempty, isRun, _, _⟩ := spelled_path_iff.mp spelled
    exact ⟨by simpa using nonempty, isRun, notArray, notMap⟩
  · intro declarable
    have nonempty : name.toList ≠ [] := by simpa using declarable.nonempty
    have spelled := Spelled.path nonempty declarable.isRun (rfl : startsPath [] = false) .nil
    rw [List.append_nil] at spelled
    refine ⟨.path name.toList, spelled, ?_⟩
    rw [Phrase.value, meaning_bare isModel declarable.notArray declarable.notMap]
    simp [model]

theorem PathRun.noSlash {run : List Char} (isRun : PathRun run) : '/' ∉ run := by
  induction isRun with
  | nil => simp
  | char isPath _ ih =>
      refine List.not_mem_cons_of_ne_of_not_mem ?_ ih
      rintro rfl
      exact absurd isPath (by decide)
  | colons _ ih => simpa using ih

end TypeExpr

namespace OpenApi

open TypeExpr

theorem ofType_eq_single_iff (type : TypeExpr) (name : String) :
    ResponseShape.ofType type = .single (.reference name) ↔ type = .reference name := by
  cases type with
  | scalar s => cases s <;> simp [ResponseShape.ofType]
  | reference other => simp [ResponseShape.ofType]
  | array element => simp [ResponseShape.ofType]
  | map key value => simp [ResponseShape.ofType]

/-! ### Declared results -/

theorem answerOf_declared_iff {description : Description} {operation : OperationObject}
    {name : String} (declared : operation.returnType = some name)
    (model : isModelName description.schemas name = true) :
    answerOf description operation = .ok (.single (.reference name)) ↔ Declarable name := by
  rw [← parse_reference_iff model, answerOf, declared]
  cases parsed : TypeExpr.parse (isModelName description.schemas) name with
  | error fault => simp [parsed]
  | ok type => simp [parsed, ofType_eq_single_iff]

/-! ### Described responses -/

def okSchema? (operation : OperationObject) : Option Schema :=
  ((successes operation.responses).filter (·.1 == 200)).findSome? fun (_, response) =>
    jsonSchema? response.content

theorem typeOf_model {schemas : Schemas} {name : String} (model : isModelName schemas name = true)
    (noSlash : '/' ∉ name.toList) (note : Option String) :
    (typeOf schemas (.reference (schemaRefStart ++ name) note)).type = .reference name := by
  rw [typeOf, typing, refName_append noSlash rfl]
  simp [model]

theorem responseShape_ok (schemas : Schemas) {operation : OperationObject} {schema : Schema}
    (described : okSchema? operation = some schema) :
    responseShape schemas operation = .ofType (typeOf schemas schema).type := by
  obtain ⟨_, best, _, kept, found, passedOver⟩ := List.findSome?_eq_some_iff.mp described
  obtain ⟨front, _, split, rfl, behind⟩ := List.filter_eq_append_iff.mp kept
  obtain ⟨idle, back, rfl, passed, isOk, -⟩ := List.filter_eq_cons_iff.mp behind
  have first : successSchema? operation = some schema := by
    rw [successSchema?, split, ← List.append_assoc]
    refine findSome?_mergeSort (fun a b c => codeBefore_trans a.1 b.1 c.1)
      (fun a b => codeBefore_total a.1 b.1) found ?_ ?_
    · intro other isAhead answers
      have notOk : ¬(other.1 == 200) = true := by
        intro otherOk
        rcases List.mem_append.mp isAhead with inFront | isIdle
        · exact answers (passedOver other (List.mem_filter.mpr ⟨inFront, otherOk⟩))
        · exact passed other isIdle otherOk
      simpa [codeBefore, beq_iff_eq.mp isOk] using notOk
    · intro other _ _
      simp [codeBefore, beq_iff_eq.mp isOk]
  rw [responseShape_eq, first]

theorem answerOf_described {description : Description} {operation : OperationObject}
    {name : String} {note : Option String} (undeclared : operation.returnType = none)
    (described : okSchema? operation = some (.reference (schemaRefStart ++ name) note))
    (model : isModelName description.schemas name = true) (noSlash : '/' ∉ name.toList) :
    answerOf description operation = .ok (.single (.reference name)) := by
  rw [answerOf, undeclared]
  simp only
  rw [responseShape_ok _ described, typeOf_model model noSlash]
  rfl

/-- An operation that declares a model's name and one whose response to code 200 refers to the model
both answer the model just if its name is one that is declared by itself. All that the reference
needs is a name without a slash. The operations of an accepted description have these answers. -/
theorem model_answers_agree_iff {description : Description} {name : String}
    (model : isModelName description.schemas name = true) {textual structural : OperationObject}
    {note : Option String} (declared : textual.returnType = some name)
    (undeclared : structural.returnType = none)
    (described : okSchema? structural = some (.reference (schemaRefStart ++ name) note)) :
    (answerOf description textual = .ok (.single (.reference name)) ∧
        answerOf description structural = .ok (.single (.reference name)) ↔ Declarable name) ∧
    ('/' ∉ name.toList →
      answerOf description structural = .ok (.single (.reference name))) ∧
    ∀ document, OpenApi.document description = .ok document →
      (∃ model ∈ document.models, model.name = name) ∧
      List.Forall₂ (fun entry operation => answerOf description entry.2.2.2 = .ok operation.response)
        (entries description) document.operations := by
  have referring := answerOf_described undeclared described model
  refine ⟨⟨fun agree => (answerOf_declared_iff declared model).mp agree.1, ?_⟩,
    referring, ?_⟩
  · intro declarable
    exact ⟨(answerOf_declared_iff declared model).mpr declarable,
      referring declarable.isRun.noSlash⟩
  · intro document accepted
    obtain ⟨models, describes⟩ := document_describes accepted
    exact ⟨models ▸ exists_model model, describes.imp fun _ _ entry => entry.answered⟩

def shelf (paths : List (String × PathItem)) : Description :=
  { title := "Shelf", version := "1", paths, parameters := []
    schemas := ["Duration", "List", "Vec<Page>", "book.Page"].map fun name =>
      (name, .object (.ofWord "object")) }

def declaring (name : String) : OperationObject :=
  { OperationObject.ofId ("read" ++ name) with returnType := some name }

def describing (name : String) : OperationObject :=
  { OperationObject.ofId ("get" ++ name) with
    responses := [("200", .inline ⟨jsonContent (.reference (schemaRefStart ++ name) none)⟩)] }

def timedShelf : Description :=
  shelf [readPath "/declared" (declaring "Duration"), readPath "/described" (describing "Duration")]

theorem shelf_answers_agree :
    (answerOf timedShelf (declaring "Duration") = .ok (.single (.reference "Duration")) ∧
        answerOf timedShelf (describing "Duration") = .ok (.single (.reference "Duration"))) ∧
    ∃ document, OpenApi.document timedShelf = .ok document ∧
      (∃ model ∈ document.models, model.name = "Duration") ∧
      List.Forall₂ (fun entry operation => answerOf timedShelf entry.2.2.2 = .ok operation.response)
        (entries timedShelf) document.operations := by
  have model : isModelName timedShelf.schemas "Duration" = true := by decide
  have declared : (declaring "Duration").returnType = some "Duration" := rfl
  have undeclared : (describing "Duration").returnType = none := rfl
  have described : okSchema? (describing "Duration") =
      some (.reference (schemaRefStart ++ "Duration") none) := rfl
  obtain ⟨agree, _, accepts⟩ := model_answers_agree_iff model declared undeclared described
  have made : (OpenApi.document timedShelf).isOk = true := by decide +kernel
  obtain ⟨document, accepted⟩ := exists_of_isOk made
  exact ⟨agree.mpr (by decide), document, accepted, accepts document accepted⟩

/-- References to models are answered by these. Their names are refused as declared results if a
container goes by them or they are no paths, and may even declare another type. -/
theorem shelf_answers_differ :
    (∀ name ∈ ["List", "book.Page", "Vec<Page>"], isModelName (shelf []).schemas name = true) ∧
    answers? (shelf [readPath "/list" (describing "List"), readPath "/page" (describing "book.Page"),
        readPath "/pages" (describing "Vec<Page>")]) =
      some [.single (.reference "List"), .single (.reference "book.Page"),
        .single (.reference "Vec<Page>")] ∧
    OpenApi.document (shelf [readPath "/list" (declaring "List")]) =
      .error (.invalidSchema [⟨"paths./list.get", .invalidReturnType "List" ⟨.arrayArity, 4⟩⟩]) ∧
    OpenApi.document (shelf [readPath "/page" (declaring "book.Page")]) =
      .error (.invalidSchema
        [⟨"paths./page.get", .invalidReturnType "book.Page" ⟨.trailingInput, 4⟩⟩]) ∧
    answers? (shelf [readPath "/pages" (declaring "Vec<Page>")]) =
      some [.array (.reference "Page")] := by
  exact ⟨by decide, by decide +kernel, rfl, rfl, by decide +kernel⟩

end OpenApi

end ApiContracts
