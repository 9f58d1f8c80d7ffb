import ApiContracts.Contract.Plan
import Mathlib.Data.List.Induction
import Mathlib.Data.List.Nodup

/-!
When the identifiers of a request's fields are different. A parameter whose identifier is taken gets
the word of its location behind it, once; nothing looks whether that is free.
-/

namespace ApiContracts

namespace Parameter

def plainField (parameter : Parameter) : String := Naming.fieldName parameter.name

def locatedField (parameter : Parameter) : String :=
  parameter.plainField ++ "_" ++ parameter.location.text

end Parameter

def parameterNames (parameters : List Parameter) : List String :=
  (parameterFields [] parameters).map (·.fieldName)

theorem parameterFields_append (fields : List RequestField) (front back : List Parameter) :
    parameterFields fields (front ++ back) = parameterFields (parameterFields fields front) back := by
  induction front generalizing fields with
  | nil => rfl
  | cons parameter rest ih => exact ih _

theorem parameterNames_snoc (front : List Parameter) (parameter : Parameter) :
    parameterNames (front ++ [parameter]) = parameterNames front ++
      [if parameter.plainField ∈ parameterNames front then parameter.locatedField
        else parameter.plainField] := by
  have taken : (parameterFields [] front).any (·.fieldName == parameter.plainField) = true ↔
      parameter.plainField ∈ parameterNames front := by
    simp [parameterNames]
  rw [parameterNames, parameterFields_append, parameterFields, parameterFields, List.map_append]
  simp only [List.map_cons, List.map_nil, parameterField, ← taken]
  rfl

theorem plainField_mem {parameters : List Parameter} {parameter : Parameter}
    (member : parameter ∈ parameters) : parameter.plainField ∈ parameterNames parameters := by
  induction parameters using List.reverseRecOn with
  | nil => simp at member
  | append_singleton front last ih =>
      rw [parameterNames_snoc, List.mem_append]
      rcases List.mem_append.mp member with before | here
      · exact .inl (ih before)
      · obtain rfl := List.mem_singleton.mp here
        by_cases taken : parameter.plainField ∈ parameterNames front
        · exact .inl taken
        · right
          simp [taken]

theorem mem_parameterNames {parameters : List Parameter} {name : String}
    (member : name ∈ parameterNames parameters) :
    ∃ parameter ∈ parameters, name = parameter.plainField ∨ name = parameter.locatedField := by
  induction parameters using List.reverseRecOn with
  | nil => simp [parameterNames, parameterFields] at member
  | append_singleton front last ih =>
      rw [parameterNames_snoc, List.mem_append, List.mem_singleton] at member
      rcases member with before | rfl
      · obtain ⟨parameter, isParameter, named⟩ := ih before
        exact ⟨parameter, List.mem_append_left _ isParameter, named⟩
      · refine ⟨last, List.mem_concat_self, ?_⟩
        split
        · exact .inr rfl
        · exact .inl rfl

theorem locatedField_ending (parameter : Parameter) :
    '_' :: parameter.location.text.toList <:+ parameter.locatedField.toList :=
  ⟨parameter.plainField.toList, by simp [Parameter.locatedField]⟩

theorem locatedField_inj {first second : Parameter}
    (same : first.locatedField = second.locatedField) :
    first.plainField = second.plainField ∧ first.location = second.location := by
  have location : first.location = second.location := by
    have isFirst := locatedField_ending first
    have isSecond := locatedField_ending second
    rw [same] at isFirst
    -- One of two endings ends in the other, and no two of the four words do.
    rcases List.suffix_or_suffix_of_suffix isFirst isSecond with shorter | shorter <;> revert shorter <;>
      cases first.location <;> cases second.location <;> decide
  refine ⟨?_, location⟩
  rw [Parameter.locatedField, Parameter.locatedField, location] at same
  simpa [String.ext_iff] using same

theorem parameterNames_nodup_iff (parameters : List Parameter) :
    (parameterNames parameters).Nodup ↔
      ∀ front parameter back, parameters = front ++ parameter :: back →
        parameter.plainField ∈ parameterNames front →
          parameter.locatedField ∉ parameterNames front := by
  induction parameters using List.reverseRecOn with
  | nil => simp [parameterNames, parameterFields]
  | append_singleton front last ih =>
      rw [parameterNames_snoc, List.nodup_append_comm, List.singleton_append, List.nodup_cons, ih]
      constructor
      · rintro ⟨free, distinct⟩ before parameter behind split taken
        rcases List.eq_nil_or_concat' behind with rfl | ⟨others, final, rfl⟩
        · obtain ⟨rfl, same⟩ := List.append_inj' split rfl
          obtain rfl := List.cons.inj same |>.1
          rwa [if_pos taken] at free
        · rw [← List.cons_append, ← List.append_assoc] at split
          obtain ⟨rfl, _⟩ := List.append_inj' split rfl
          exact distinct before parameter others rfl taken
      · intro all
        constructor
        · by_cases taken : last.plainField ∈ parameterNames front
          · rw [if_pos taken]
            exact all front last [] rfl taken
          · rwa [if_neg taken]
        · rintro before parameter behind rfl
          exact all before parameter (behind ++ [last]) (by simp)

theorem mem_parameterNames_iff {name : String}
    (unlocated : ∀ location : ParameterLocation, ¬('_' :: location.text.toList <:+ name.toList))
    (parameters : List Parameter) :
    name ∈ parameterNames parameters ↔ name ∈ parameters.map (·.plainField) := by
  rw [List.mem_map]
  constructor
  · intro member
    obtain ⟨parameter, isParameter, rfl | rfl⟩ := mem_parameterNames member
    · exact ⟨parameter, isParameter, rfl⟩
    · exact absurd (locatedField_ending parameter) (unlocated parameter.location)
  · rintro ⟨parameter, isParameter, rfl⟩
    exact plainField_mem isParameter

theorem requestFields_nodup_iff (operation : Operation) :
    ((requestFields operation).map (·.fieldName)).Nodup ↔
      (parameterNames operation.parameters).Nodup ∧
        (operation.requestBody.isSome = true →
          "body" ∈ operation.parameters.map (·.plainField) →
            "request_body" ∉ operation.parameters.map (·.plainField)) := by
  rw [← mem_parameterNames_iff (by intro location; cases location <;> decide),
    ← mem_parameterNames_iff (by intro location; cases location <;> decide), requestFields,
    List.map_append]
  change (parameterNames operation.parameters ++ _).Nodup ↔ _
  cases operation.requestBody with
  | none => simp
  | some body =>
      have taken : (parameterFields [] operation.parameters).any (·.fieldName == "body") = true ↔
          "body" ∈ parameterNames operation.parameters := by
        simp [parameterNames]
      rw [List.nodup_append_comm]
      simp only [Option.toList_some, List.map_cons, List.map_nil, bodyField, taken,
        List.singleton_append, List.nodup_cons, Option.isSome_some, forall_const]
      by_cases body : "body" ∈ parameterNames operation.parameters
      · simp [body, and_comm]
      · simp [body]

/-- The identifiers of a request's fields are different just if each is free when it is given: the
located one of every parameter whose plain one is taken, and `request_body` where a parameter has
the identifier of the body. It is enough that no two parameters have both the same plain identifier
and the same location, and that no plain identifier is a located one. -/
theorem request_identifiers (operation : Operation) :
    (((requestFields operation).map (·.fieldName)).Nodup ↔
      (∀ front parameter back, operation.parameters = front ++ parameter :: back →
        parameter.plainField ∈ parameterNames front →
          parameter.locatedField ∉ parameterNames front) ∧
      (operation.requestBody.isSome = true →
        "body" ∈ operation.parameters.map (·.plainField) →
          "request_body" ∉ operation.parameters.map (·.plainField))) ∧
    ((operation.parameters.map fun parameter => (parameter.plainField, parameter.location)).Nodup →
      (∀ first ∈ operation.parameters, ∀ second ∈ operation.parameters,
        first.plainField ≠ second.locatedField) →
      (operation.requestBody.isSome = true →
        "body" ∈ operation.parameters.map (·.plainField) →
          "request_body" ∉ operation.parameters.map (·.plainField)) →
        ((requestFields operation).map (·.fieldName)).Nodup) := by
  constructor
  · rw [requestFields_nodup_iff, parameterNames_nodup_iff]
  · intro pairs unlocated body
    rw [requestFields_nodup_iff, parameterNames_nodup_iff]
    refine ⟨?_, body⟩
    intro front parameter back split _ taken
    have here : parameter ∈ operation.parameters := by simp [split]
    obtain ⟨other, before, named⟩ := mem_parameterNames taken
    have there : other ∈ operation.parameters := by simp [split, before]
    rcases named with plain | located
    · exact unlocated other there parameter here plain.symm
    · obtain ⟨samePlain, sameLocation⟩ := locatedField_inj located
      rw [split, List.map_append, List.nodup_append'] at pairs
      apply pairs.2.2 (List.mem_map_of_mem before)
      rw [← samePlain, ← sameLocation]
      exact List.mem_map_of_mem List.mem_cons_self

def lookupThing : Operation :=
  { operationId := "lookUpThing"
    method := ⟨"POST"⟩
    path := "/thing/{id}"
    summary := none
    tags := []
    parameters :=
      [⟨"id", .path, true, .scalar .long⟩, ⟨"ID", .query, false, .scalar .string⟩,
        ⟨"body", .header, false, .scalar .string⟩]
    requestBody := some ⟨.scalar .string, true⟩
    response := .void }

theorem lookupThing_identifiers :
    (requestFields lookupThing).map (·.fieldName) = ["id", "id_query", "body", "request_body"] ∧
      ((requestFields lookupThing).map (·.fieldName)).Nodup := by
  refine ⟨by decide +kernel, (request_identifiers lookupThing).2 ?_ ?_ ?_⟩ <;> decide +kernel

def threefold : Operation :=
  { lookupThing with
    parameters :=
      [⟨"id", .path, true, .scalar .long⟩, ⟨"Id", .query, false, .scalar .string⟩,
        ⟨"ID", .query, false, .scalar .string⟩]
    requestBody := none }

theorem threefold_identifiers :
    (threefold.parameters.map fun parameter => (parameter.name, parameter.location)).Nodup ∧
      (requestFields threefold).map (·.fieldName) = ["id", "id_query", "id_query"] ∧
      ¬((requestFields threefold).map (·.fieldName)).Nodup := by
  refine ⟨by decide, ?_, ?_⟩ <;> decide +kernel

end ApiContracts
