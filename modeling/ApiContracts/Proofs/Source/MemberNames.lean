import ApiContracts.Proofs.Json.Members
import ApiContracts.Proofs.Plan.RequestFields
import ApiContracts.Proofs.Source.Requests

/-!
The names that the fields of a request have as members of what is written for it. The attribute that
keeps a wire name brings back every name that the identifiers had been told apart by.
-/

namespace ApiContracts

open Lexical

def renamed? (argument : String) : Option String :=
  match Lexical.read argument with
  | some [.word name, .word ['='], .literal text] =>
    if name == "rename".toList then some (String.ofList text) else none
  | _ => none

def FieldLines.memberName (field : FieldLines) : String :=
  (field.attributes.findSome? renamed?).getD (bareIdentifier field.identifier)

theorem renamed?_quoted (name : String) : renamed? ("rename = " ++ quoted name) = some name := by
  have before : run (.code []) "rename = ".toList =
      some ([.word "rename".toList, .word ['=']], .code []) := by
    decide +kernel
  have behind : run (.code []) ['\n'] = some ([], .code []) := rfl
  have all := run_trans (run_trans before (denotes_quoted name [] rfl)) behind
  rw [renamed?, Lexical.read, String.toList_append, all]
  simp [flush]

theorem renamed?_optional (optional : Bool) :
    (optionalAttribute optional).findSome? renamed? = none := by
  cases optional with
  | false => rfl
  | true => decide +kernel

theorem WrittenField.memberName_eq (field : WrittenField) :
    field.fieldLines.memberName = field.wireName := by
  rw [FieldLines.memberName, fieldLines, renameAttribute, List.findSome?_append, renamed?_optional]
  split
  next same => simpa using same
  next => simp [renamed?_quoted]

theorem parameterFields_names (fields : List RequestField) (parameters : List Parameter) :
    (parameterFields fields parameters).map (·.name) =
      fields.map (·.name) ++ parameters.map (·.name) := by
  induction parameters generalizing fields with
  | nil => simp [parameterFields]
  | cons parameter rest ih => simp [parameterFields, ih, parameterField]

namespace Request

def memberNames (request : Request) : List String := request.fieldLines.map (·.memberName)

/-- Whatever the values of the fields, and whichever are left out, each is found by the name of its
field in the object that is written of them. -/
def ReadsBack (request : Request) : Prop :=
  ∀ values : List (Option Json), values.length = request.memberNames.length →
    request.memberNames.map (Json.ofGiven (request.memberNames.zip values)).member? = values

theorem memberNames_eq (request : Request) :
    request.memberNames = request.fields.map (·.name) := by
  rw [memberNames, fieldLines_eq, writtenFields, List.map_map, List.map_map]
  apply List.map_congr_left
  intro field _
  exact field.written.memberName_eq

/-- The fields of a request are members by the names of the parameters, and `body` for the body.
These are different just if the parameters have different names, none of them that of the body
where there is one, and just then a request that was written can be read back. -/
theorem request_members (operation : Operation) :
    (ofOperation operation).memberNames =
        operation.parameters.map (·.name) ++ operation.requestBody.toList.map (fun _ => "body") ∧
      ((ofOperation operation).memberNames.Nodup ↔
        (operation.parameters.map (·.name)).Nodup ∧
          (operation.requestBody.isSome = true → "body" ∉ operation.parameters.map (·.name))) ∧
      ((ofOperation operation).ReadsBack ↔ (ofOperation operation).memberNames.Nodup) := by
  have names : (ofOperation operation).memberNames =
      operation.parameters.map (·.name) ++ operation.requestBody.toList.map (fun _ => "body") := by
    rw [memberNames_eq, ofOperation, requestFields]
    dsimp only
    rw [List.map_append, parameterFields_names, List.map_map]
    rfl
  refine ⟨names, ?_, Json.names_determine_iff _⟩
  rw [names]
  cases operation.requestBody with
  | none => simp
  | some body =>
      rw [List.nodup_append_comm]
      simp [and_comm]

end Request

def doubled : Operation :=
  { lookupThing with
    parameters := [⟨"id", .path, true, .scalar .long⟩, ⟨"id", .query, false, .scalar .string⟩]
    requestBody := none }

theorem doubled_members :
    (doubled.parameters.map fun parameter => (parameter.name, parameter.location)).Nodup ∧
      (Request.ofOperation doubled).fields.map (·.fieldName) = ["id", "id_query"] ∧
      (Request.ofOperation doubled).memberNames = ["id", "id"] ∧
      ¬(Request.ofOperation doubled).memberNames.Nodup ∧
      ¬(Request.ofOperation doubled).ReadsBack := by
  have names : (Request.ofOperation doubled).memberNames = ["id", "id"] := by decide +kernel
  have same : ¬(Request.ofOperation doubled).memberNames.Nodup := by
    rw [names]
    decide
  refine ⟨by decide, by decide +kernel, names, same, ?_⟩
  rw [Request.ReadsBack, Json.names_determine_iff]
  exact same

end ApiContracts
