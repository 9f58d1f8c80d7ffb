import ApiContracts.Proofs.Source.Imports
import ApiContracts.Proofs.Source.Quiet

/-!
How the file of a DTO is read. Its literals denote the names on the wire and the values that they
are to carry, and two files with the same names and types in their code are the same code.
-/

namespace ApiContracts

open Lexical

structure WrittenField where
  doc : List String
  wireName : String
  identifier : String
  type : String
  optional : Bool

structure FieldCode where
  identifier : String
  type : String
  renamed : Bool
  optional : Bool
deriving DecidableEq, Repr

namespace WrittenField

def renamed (field : WrittenField) : Bool := bareIdentifier field.identifier != field.wireName

def code (field : WrittenField) : FieldCode :=
  { identifier := field.identifier
    type := field.type
    renamed := field.renamed
    optional := field.optional }

def texts (field : WrittenField) : List String :=
  (if field.renamed then [field.wireName] else []) ++
    if field.optional then ["Option::is_none"] else []

def fieldLines (field : WrittenField) : FieldLines :=
  { doc := field.doc
    attributes :=
      renameAttribute field.identifier field.wireName ++ optionalAttribute field.optional
    identifier := field.identifier
    type := field.type }

def attributeLines (field : WrittenField) : List String :=
  match field.renamed, field.optional with
  | false, false => []
  | false, true => ["    #[serde(default, skip_serializing_if = \"Option::is_none\")]"]
  | true, false => ["    #[serde(rename = " ++ quoted field.wireName ++ ")]"]
  | true, true =>
    ["    #[serde(rename = " ++ quoted field.wireName ++
      ", default, skip_serializing_if = \"Option::is_none\")]"]

theorem attributeLines_eq (field : WrittenField) :
    field.attributeLines = if field.fieldLines.attributes.isEmpty then []
      else ["    #[serde(" ++ ", ".intercalate field.fieldLines.attributes ++ ")]"] := by
  rw [attributeLines]
  cases renamed : field.renamed with
  | false =>
      have same : bareIdentifier field.identifier = field.wireName := by
        simpa [WrittenField.renamed] using renamed
      cases optional : field.optional <;>
        simp [fieldLines, renameAttribute, optionalAttribute, same, optional]
  | true =>
      have different : bareIdentifier field.identifier ≠ field.wireName := by
        simpa [WrittenField.renamed] using renamed
      cases optional : field.optional with
      | false =>
          simp only [fieldLines, renameAttribute, optionalAttribute, optional, beq_iff_eq, different]
          apply congrArg (· :: [])
          apply String.toList_inj.mp
          simp
      | true =>
          simp only [fieldLines, renameAttribute, optionalAttribute, optional, beq_iff_eq, different]
          apply congrArg (· :: [])
          apply String.toList_inj.mp
          simp

structure Tame (field : WrittenField) : Prop where
  doc : ∀ line ∈ field.doc, '\n' ∉ line.toList
  identifier : Quiet field.identifier
  type : Quiet field.type

theorem attributes_alike {first second : WrittenField} (same : first.code = second.code) :
    Alike first.attributeLines second.attributeLines first.texts second.texts := by
  obtain ⟨_, _, renamed, optional⟩ := FieldCode.mk.inj same
  have optionalOnly : Carries ["    #[serde(default, skip_serializing_if = \"Option::is_none\")]"]
      ["Option::is_none"] := by
    decide +kernel
  rw [attributeLines, attributeLines, texts, texts, ← renamed, ← optional]
  cases first.renamed <;> cases first.optional
  · exact alike_quiet (by simp)
  · exact alike_of_carries optionalOnly
  · exact alike_literal (by decide +kernel) (denotes_quoted _) (denotes_quoted _)
      (by decide +kernel)
  · exact alike_literal (by decide +kernel) (denotes_quoted _) (denotes_quoted _)
      (by decide +kernel)

theorem alike {first second : WrittenField} (tame : first.Tame) (otherTame : second.Tame)
    (same : first.code = second.code) :
    Alike first.fieldLines.lines second.fieldLines.lines first.texts second.texts := by
  have comments {field : WrittenField} (tame : field.Tame) :
      ∀ line ∈ field.doc.map ("    /// " ++ ·), IsComment line :=
    List.forall_mem_map.mpr fun line member =>
      isComment_append (by decide) (tame.doc line member)
  have declaration : Quiet ("    pub " ++ first.identifier ++ ": " ++ first.type ++ ",") :=
    quiet_append (quiet_append (quiet_append (quiet_append (by decide) tame.identifier)
      (by decide)) tame.type) (by decide)
  obtain ⟨identifier, type, _, _⟩ := FieldCode.mk.inj same
  have all := ((alike_comments (comments tame) (comments otherTame)).append
    (attributes_alike same)).append (alike_of_carries (carries_quiet declaration))
  rw [FieldLines.lines, FieldLines.lines, ← attributeLines_eq, ← attributeLines_eq]
  simpa [fieldLines, ← identifier, ← type] using all

end WrittenField

theorem structLines_alike {name : String} {fields others : List WrittenField} (quiet : Quiet name)
    (tame : ∀ field ∈ fields, field.Tame) (otherTame : ∀ field ∈ others, field.Tame)
    (same : fields.map WrittenField.code = others.map WrittenField.code) :
    Alike (structLines name (fields.map WrittenField.fieldLines))
      (structLines name (others.map WrittenField.fieldLines))
      (fields.flatMap WrittenField.texts) (others.flatMap WrittenField.texts) := by
  have derives : Quiet "#[derive(Debug, Clone, PartialEq, Serialize, Deserialize)]" := by
    decide +kernel
  have head : Quiet ("pub struct " ++ name ++ " \x7b") :=
    quiet_append (quiet_append (by decide) quiet) (by decide)
  have inside := alike_flatMap (fun field isField other isOther =>
    WrittenField.alike (tame field isField) (otherTame other isOther)) same
  have closing : Quiet "\x7d" := by decide
  have all := (alike_line derives).append ((alike_line head).append
    (inside.append (alike_line closing)))
  simpa [structLines, List.flatMap_map] using all

theorem dataPreamble_alike {imports : List String} (quiet : ∀ line ∈ imports, Quiet line) :
    Alike (dataPreamble imports) (dataPreamble imports) [] [] := by
  apply alike_quiet
  simp only [dataPreamble, List.forall_mem_append]
  exact ⟨⟨by decide +kernel, quiet⟩, by decide⟩

theorem header_comments {origin : String} (oneLine : '\n' ∉ origin.toList) :
    ∀ line ∈ header origin, IsComment line := by
  rw [header, List.forall_mem_cons, List.forall_mem_singleton]
  exact ⟨isComment_append (by decide +kernel) oneLine, by decide +kernel⟩

theorem doc_comments (description : Option String) :
    ∀ line ∈ (docLines description).map ("/// " ++ ·), IsComment line :=
  List.forall_mem_map.mpr fun line member =>
    isComment_append (by decide) (docLines_oneLine description line member)

structure RuleCode where
  fieldName : String
  optional : Bool
  check : RuleCheck

inductive Code where
  | struct (name : String) (imports : List String) (fields : List FieldCode)
  | enum (name : String) (imports : List String) (variants : List String)
  | request (kind : RequestKind) (name : String) (imports : List String)
      (fields : List FieldCode) (response : String) (created deletes : Bool)
  | handler (kind : RequestKind) (name request module : String) (isUnit : Bool)
  | validator (name dtoName : String) (rules : List RuleCode)

def DtoProperty.written (property : DtoProperty) : WrittenField :=
  { doc := docLines property.description
    wireName := property.name
    identifier := property.fieldName
    type := property.fieldType
    optional := property.isOptional }

namespace Dto

def fields (dto : Dto) : List WrittenField := dto.properties.map DtoProperty.written

def code (dto : Dto) : Code :=
  if dto.isEnum then .enum dto.name dto.imports (variantIdentifiers [] 0 dto.enumValues)
  else .struct dto.name dto.imports (dto.fields.map WrittenField.code)

def texts (dto : Dto) : List String :=
  if dto.isEnum then dto.enumValues else dto.fields.flatMap WrittenField.texts

theorem fieldLines_eq (dto : Dto) : dto.fieldLines = dto.fields.map WrittenField.fieldLines := by
  rw [fields, List.map_map]
  rfl

structure Tame (dto : Dto) : Prop where
  sourceModel : '\n' ∉ dto.sourceModel.toList
  name : Quiet dto.name
  imports : ∀ line ∈ dto.imports, Quiet line
  fields : ∀ property ∈ dto.properties, Quiet property.fieldName ∧ Quiet property.fieldType

theorem Tame.field_tame {dto : Dto} (tame : dto.Tame) : ∀ field ∈ dto.fields, field.Tame :=
  List.forall_mem_map.mpr fun property member =>
    ⟨docLines_oneLine _, (tame.fields property member).1, (tame.fields property member).2⟩

theorem variantIdentifiers_length (taken : List String) (index : Nat) (values : List String) :
    (variantIdentifiers taken index values).length = values.length := by
  induction values generalizing taken index with
  | nil => rfl
  | cons value rest ih =>
      rw [variantIdentifiers]
      split <;> simp [ih]

theorem variantIdentifiers_quiet (taken : List String) (index : Nat) (values : List String) :
    ∀ identifier ∈ variantIdentifiers taken index values, Quiet identifier := by
  induction values generalizing taken index with
  | nil => simp [variantIdentifiers]
  | cons value rest ih =>
      have plain := Naming.variantName_quiet value
      simp only [variantIdentifiers]
      split
      · exact List.forall_mem_cons.mpr ⟨quiet_append plain (toString_quiet index), ih _ _⟩
      · exact List.forall_mem_cons.mpr ⟨plain, ih _ _⟩

def variantLines (variant : String × String) : List String :=
  ["    #[serde(rename = " ++ quoted variant.2 ++ ")]", "    " ++ variant.1 ++ ","]

theorem variantLines_alike {first second : String × String} (quiet : Quiet first.1)
    (same : first.1 = second.1) :
    Alike (variantLines first) (variantLines second) [first.2] [second.2] := by
  have valueLine : Alike ["    #[serde(rename = " ++ quoted first.2 ++ ")]"]
      ["    #[serde(rename = " ++ quoted second.2 ++ ")]"] [first.2] [second.2] :=
    alike_literal (by decide +kernel) (denotes_quoted _) (denotes_quoted _) (by decide +kernel)
  have declaration : Quiet ("    " ++ first.1 ++ ",") :=
    quiet_append (quiet_append (by decide) quiet) (by decide)
  simpa [variantLines, same] using valueLine.append (alike_line declaration)

theorem variants_alike {first second : Dto}
    (same : variantIdentifiers [] 0 first.enumValues = variantIdentifiers [] 0 second.enumValues) :
    Alike (first.variants.flatMap variantLines) (second.variants.flatMap variantLines)
      first.enumValues second.enumValues := by
  have identifiers (dto : Dto) :
      dto.variants.map Prod.fst = variantIdentifiers [] 0 dto.enumValues :=
    List.map_fst_zip (Nat.le_of_eq (variantIdentifiers_length _ _ _))
  have values (dto : Dto) : dto.variants.flatMap (fun variant => [variant.2]) = dto.enumValues := by
    rw [← List.map_eq_flatMap]
    exact List.map_snd_zip (Nat.le_of_eq (variantIdentifiers_length _ _ _).symm)
  have sameNames : first.variants.map Prod.fst = second.variants.map Prod.fst := by
    rw [identifiers, identifiers, same]
  rw [← values first, ← values second]
  refine alike_flatMap ?_ sameNames
  intro variant isVariant other _ sameName
  apply variantLines_alike _ sameName
  apply variantIdentifiers_quiet [] 0 first.enumValues
  rw [← identifiers]
  exact List.mem_map_of_mem isVariant

def enumLines (dto : Dto) : List String :=
  "#[derive(Debug, Clone, Copy, PartialEq, Eq, Hash, Serialize, Deserialize)]" ::
    ("pub enum " ++ dto.name ++ " \x7b") :: (dto.variants.flatMap variantLines ++ ["\x7d"])

theorem enumLines_alike {first second : Dto} (tame : first.Tame) (name : first.name = second.name)
    (identifiers : variantIdentifiers [] 0 first.enumValues =
      variantIdentifiers [] 0 second.enumValues) :
    Alike first.enumLines second.enumLines first.enumValues second.enumValues := by
  have derives : Quiet
      "#[derive(Debug, Clone, Copy, PartialEq, Eq, Hash, Serialize, Deserialize)]" := by
    decide +kernel
  have head : Quiet ("pub enum " ++ first.name ++ " \x7b") :=
    quiet_append (quiet_append (by decide) tame.name) (by decide)
  have closing : Quiet "\x7d" := by decide
  have all := (alike_line derives).append ((alike_line head).append
    ((variants_alike identifiers).append (alike_line closing)))
  simpa [enumLines, ← name] using all

theorem source_of_isEnum {dto : Dto} (isEnum : dto.isEnum = true) :
    dto.source = header ("from model `" ++ dto.sourceModel ++ "`.") ++ dataPreamble dto.imports ++
      (docLines dto.description).map ("/// " ++ ·) ++ dto.enumLines := by
  rw [source, if_pos isEnum]
  rfl

theorem opening_alike {first second : Dto} (tame : first.Tame) (otherTame : second.Tame)
    (imports : first.imports = second.imports) :
    Alike
      (header ("from model `" ++ first.sourceModel ++ "`.") ++ dataPreamble first.imports ++
        (docLines first.description).map ("/// " ++ ·))
      (header ("from model `" ++ second.sourceModel ++ "`.") ++ dataPreamble second.imports ++
        (docLines second.description).map ("/// " ++ ·)) [] [] := by
  have origin {dto : Dto} (tame : dto.Tame) :
      ∀ line ∈ header ("from model `" ++ dto.sourceModel ++ "`."), IsComment line :=
    header_comments (by simp [tame.sourceModel])
  have docs := alike_comments (doc_comments first.description) (doc_comments second.description)
  rw [← imports]
  exact ((alike_comments (origin tame) (origin otherTame)).append
    (dataPreamble_alike tame.imports)).append docs

theorem alike {first second : Dto} (tame : first.Tame) (otherTame : second.Tame)
    (same : first.code = second.code) :
    Alike first.source second.source first.texts second.texts := by
  rw [code, code] at same
  cases firstEnum : first.isEnum <;> cases secondEnum : second.isEnum
  · rw [firstEnum, secondEnum] at same
    obtain ⟨name, imports, fields⟩ := Code.struct.inj same
    have body := structLines_alike tame.name tame.field_tame otherTame.field_tame fields
    have all := (opening_alike tame otherTame imports).append body
    simpa [source, texts, fieldLines_eq, firstEnum, secondEnum, ← name] using all
  · simp [firstEnum, secondEnum] at same
  · simp [firstEnum, secondEnum] at same
  · rw [firstEnum, secondEnum] at same
    obtain ⟨name, imports, identifiers⟩ := Code.enum.inj same
    have all := (opening_alike tame otherTame imports).append
      (enumLines_alike tame name identifiers)
    simpa only [source_of_isEnum firstEnum, source_of_isEnum secondEnum, texts, firstEnum,
      secondEnum, ↓reduceIte, List.nil_append] using all

end Dto

end ApiContracts
