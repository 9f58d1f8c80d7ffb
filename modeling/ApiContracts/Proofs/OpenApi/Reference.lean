import ApiContracts.Proofs.OpenApi.Places
import ApiContracts.Proofs.OpenApi.Typing
import Mathlib.Data.List.TakeWhile

/-!
What references to schemas are taken for. A path counts by its last segment and, where that names an
alias, by its beginning. So one that leads to another file, or further into a schema, is taken for
the named schema that goes by its last segment.
-/

namespace ApiContracts.OpenApi

theorem refName_append {start name : String} (noSlash : '/' ∉ name.toList)
    (slash : start.toList.getLast? = some '/') : refName (start ++ name) = name := by
  obtain ⟨front, split⟩ := List.getLast?_eq_some_iff.mp slash
  have last : ∀ c ∈ name.toList.reverse, (c != '/') = true := by
    intro c member
    rw [bne_iff_ne]
    rintro rfl
    exact noSlash (List.mem_reverse.mp member)
  have reversed : (start ++ name).toList.reverse =
      name.toList.reverse ++ '/' :: front.reverse := by
    simp [split]
  rw [refName, reversed, List.takeWhile_append_of_pos last]
  simp

theorem refName_noSlash (path : String) : '/' ∉ (refName path).toList := by
  intro slash
  rw [refName, String.toList_ofList, List.mem_reverse] at slash
  simpa using List.mem_takeWhile_imp slash

theorem dropStart?_eq_some_iff (start text rest : String) :
    dropStart? start text = some rest ↔ text = start ++ rest := by
  rw [dropStart?]
  split
  next begins =>
      obtain ⟨behind, split⟩ := List.isPrefixOf_iff_prefix.mp begins
      rw [Option.some.injEq, ← split, List.drop_left, ← String.toList_inj, ← String.toList_inj,
        String.toList_append, String.toList_ofList, ← split, List.append_cancel_left_eq]
  next other =>
      refine iff_of_false (by simp) ?_
      rintro rfl
      exact other (List.isPrefixOf_iff_prefix.mpr (by simp))

theorem dropStart?_isSome_iff (start text : String) :
    (dropStart? start text).isSome = true ↔ ∃ rest, text = start ++ rest := by
  simp only [Option.isSome_iff_exists, dropStart?_eq_some_iff]

/-- Wherever the type of such a reference is read, it is this one. -/
structure ReadAs (schemas : Schemas) (path : String) (type : TypeExpr) : Prop where
  property : ∀ name note required,
    (propertyOf schemas name (.reference path note) required).type = type
  parameter : ∀ parameter note, parameter.schema = some (.reference path note) →
    (parameterOf schemas parameter).type = type
  body : ∀ operation note, bodySchema? operation = some (.reference path note) →
    (requestBodyOf schemas operation).map (·.type) = some type
  answer : ∀ operation note, successSchema? operation = some (.reference path note) →
    responseShape schemas operation = .ofType type

theorem readAs_iff {schemas : Schemas} {path : String} {type : TypeExpr} :
    ReadAs schemas path type ↔ (typeOf schemas (.reference path none)).type = type := by
  constructor
  · intro readAs
    rw [← readAs.property "" none false, propertyOf_type]
  · intro typed
    have same (note : Option String) : (typeOf schemas (.reference path note)).type = type := typed
    refine ⟨?_, ?_, ?_, ?_⟩
    · intro name note required
      rw [propertyOf_type, same]
    · intro parameter note described
      rw [parameterOf_type described, same]
    · intro operation note described
      rw [requestBodyOf_type, described, Option.map_some, same]
    · intro operation note described
      rw [responseShape_eq, described]
      exact congrArg ResponseShape.ofType (same note)

def StandsForModel (path name : String) : Prop :=
  ∀ (schemas : Schemas) (model : Schema), model.isModel = true →
    ReadAs ((name, model) :: schemas) path (.reference name)

def StandsForAlias (path name : String) : Prop :=
  ∀ (schemas : Schemas) (alternative : Schema), alternative.isModel = false →
    ReadAs ((name, alternative) :: schemas) path
      (typing ((name, alternative) :: schemas) maxAliasDepth alternative).type

def StandsForPart (path name : String) : Prop :=
  ∀ (schemas : Schemas) (part : Schema) levels note found,
    collect ((name, part) :: schemas) (levels + 1) (.reference path note) found =
      collect ((name, part) :: schemas) levels part found

theorem lookup_other {name other : String} {schema : Schema} (different : other ≠ name) :
    List.lookup other [(name, schema)] = none := by
  simp [List.lookup_cons, beq_false_of_ne different]

theorem typeOf_reference (schemas : Schemas) (path : String) (note : Option String) :
    typeOf schemas (.reference path note) =
      match aliasTarget? schemas path with
      | some target => typing schemas maxAliasDepth target
      | none => ⟨.reference (refName path), false⟩ := typing_succ ..

theorem standsForModel_iff (path name : String) : StandsForModel path name ↔ refName path = name := by
  constructor
  · -- With the model alone, any other last segment finds nothing and stays a reference.
    intro stands
    by_contra different
    have read := readAs_iff.mp (stands [] (.object (.ofWord "object")) rfl)
    have nothing : aliasTarget? [(name, .object (.ofWord "object"))] path = none := by
      simp [aliasTarget?, lookup_other different]
    rw [typeOf_reference, nothing] at read
    exact different (TypeExpr.reference.inj read)
  · rintro rfl schemas model isModel
    have known : aliasTarget? ((refName path, model) :: schemas) path = none := by
      simp [aliasTarget?, isModelName, isModel]
    rw [readAs_iff, typeOf_reference, known]

theorem standsForAlias_iff (path name : String) :
    StandsForAlias path name ↔ refName path = name ∧ ∃ rest, path = schemaRefStart ++ rest := by
  rw [← dropStart?_isSome_iff]
  constructor
  · intro stands
    have text : (typing [(name, .object (.ofWord "string"))] maxAliasDepth
        (.object (.ofWord "string"))).type = .scalar .string := rfl
    have read := readAs_iff.mp (stands [] (.object (.ofWord "string")) rfl)
    rw [typeOf_reference, text] at read
    cases found : aliasTarget? [(name, .object (.ofWord "string"))] path with
    | none => simp [found] at read
    | some target =>
        rw [aliasTarget?] at found
        split at found
        next begins =>
            refine ⟨?_, (Bool.and_eq_true_iff.mp begins).1⟩
            by_contra different
            simp [lookup_other different] at found
        next => simp at found
  · rintro ⟨rfl, begins⟩ schemas alternative isAlias
    have known : aliasTarget? ((refName path, alternative) :: schemas) path = some alternative := by
      simp [aliasTarget?, isModelName, isAlias, begins]
    rw [readAs_iff, typeOf_reference, known]

theorem standsForPart_iff (path name : String) : StandsForPart path name ↔ refName path = name := by
  constructor
  · intro stands
    by_contra different
    have added := stands [] (.object { Keywords.ofWord "object" with
      properties := [("", .object (.ofWord "string"))] }) 1 none []
    rw [collect] at added
    simp [lookup_other different, collect, putProperty] at added
  · rintro rfl schemas part levels note found
    simp [collect]

/-- A path is taken for what goes by its last segment, and for an alias if it begins like a
reference to a named schema. So all that it is taken for is what it names just if nothing but a name
follows that beginning. -/
theorem taken_for_iff (path name : String) :
    (StandsForModel path name ↔ refName path = name) ∧
    (StandsForPart path name ↔ refName path = name) ∧
    (StandsForAlias path name ↔ refName path = name ∧ ∃ rest, path = schemaRefStart ++ rest) ∧
    ((∀ other, StandsForModel path other ∨ StandsForAlias path other ∨ StandsForPart path other →
        path = schemaRefStart ++ other) ↔
      ∃ last, path = schemaRefStart ++ last ∧ '/' ∉ last.toList) := by
  refine ⟨standsForModel_iff path name, standsForPart_iff path name, standsForAlias_iff path name, ?_⟩
  constructor
  · intro named
    exact ⟨refName path, named _ (.inl ((standsForModel_iff ..).mpr rfl)), refName_noSlash path⟩
  · rintro ⟨last, rfl, noSlash⟩ other taken
    rw [standsForModel_iff, standsForAlias_iff, standsForPart_iff, refName_append noSlash rfl] at taken
    rcases taken with rfl | ⟨rfl, _⟩ | rfl
    all_goals rfl

def annex : Description :=
  let order : Keywords Schema :=
    { Keywords.ofWord "object" with
      allOf := [.reference "other.yaml#/components/schemas/Base" none]
      properties :=
        [("Tags", .object (.ofWord "string")),
          ("pet", .reference "other.yaml#/components/schemas/Pet" none),
          ("words", .reference (schemaRefStart ++ "Order/properties/Tags") none)] }
  { title := "Annex", version := "1", paths := [], parameters := []
    schemas :=
      [("Base", .object { Keywords.ofWord "object" with
          properties := [("id", .object (.ofWord "integer"))] }),
        ("Order", .object order),
        ("Pet", .object (.ofWord "object")),
        ("Tags", .object { Keywords.ofWord "array" with
          items := some (.object (.ofWord "string")) })] }

/-- Named schemas are taken for what is in another file or further inside: the words of an order
have the type of the alias, not that of the property they refer to. -/
theorem annex_mistaken :
    ((OpenApi.document annex).toOption.map fun document => document.models.map fun model =>
        (model.name, model.properties.map fun property => (property.name, property.type))) =
      some [("Base", [("id", .scalar .integer)]),
        ("Order", [("id", .scalar .integer), ("Tags", .scalar .string), ("pet", .reference "Pet"),
          ("words", .array (.scalar .string))]),
        ("Pet", [])] ∧
    (StandsForPart "other.yaml#/components/schemas/Base" "Base" ∧
      "other.yaml#/components/schemas/Base" ≠ schemaRefStart ++ "Base") ∧
    (StandsForModel "other.yaml#/components/schemas/Pet" "Pet" ∧
      "other.yaml#/components/schemas/Pet" ≠ schemaRefStart ++ "Pet") ∧
    StandsForAlias (schemaRefStart ++ "Order/properties/Tags") "Tags" ∧
      schemaRefStart ++ "Order/properties/Tags" ≠ schemaRefStart ++ "Tags" := by
  have part : StandsForPart "other.yaml#/components/schemas/Base" "Base" :=
    (standsForPart_iff ..).mpr (by decide +kernel)
  have model : StandsForModel "other.yaml#/components/schemas/Pet" "Pet" :=
    (standsForModel_iff ..).mpr (by decide +kernel)
  have tags : StandsForAlias (schemaRefStart ++ "Order/properties/Tags") "Tags" :=
    (standsForAlias_iff ..).mpr ⟨by decide +kernel, "Order/properties/Tags", rfl⟩
  exact ⟨by decide +kernel, ⟨part, by decide⟩, ⟨model, by decide⟩, tags, by decide⟩

end ApiContracts.OpenApi
