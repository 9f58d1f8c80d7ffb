import ApiContracts.Proofs.Plan.Instructions
import ApiContracts.Proofs.Types.Parts

/-!
The imports of generated files. A file of a data type imports every DTO that its types name, each
once and through the module of the DTO's file, and maps exactly if a type holds one; validators and
handlers import what they are for.
-/

namespace ApiContracts

theorem mem_insertName (name other : String) (names : List String) :
    other ∈ insertName name names ↔ other = name ∨ other ∈ names := by
  induction names with
  | nil => simp [insertName]
  | cons first rest ih =>
      rw [insertName]
      split
      next same =>
          obtain rfl := beq_iff_eq.mp same
          simp
      next =>
          split
          · simp
          · rw [List.mem_cons, ih, List.mem_cons]
            exact or_left_comm

theorem insertName_ascending (name : String) {names : List String}
    (ascending : names.Pairwise (· < ·)) : (insertName name names).Pairwise (· < ·) := by
  induction names with
  | nil => simp [insertName]
  | cons first rest ih =>
      obtain ⟨below, later⟩ := List.pairwise_cons.mp ascending
      rw [insertName]
      split
      · exact ascending
      next different =>
          split
          next before =>
              refine List.pairwise_cons.mpr ⟨?_, ascending⟩
              intro other member
              rcases List.mem_cons.mp member with rfl | behind
              · exact before
              · exact String.lt_trans before (below other behind)
          next notBefore =>
              refine List.pairwise_cons.mpr ⟨?_, ih later⟩
              intro other member
              rcases (mem_insertName name other rest).mp member with rfl | behind
              · -- The new name is neither the first one nor before it.
                rw [← String.not_le]
                intro atMost
                exact different (beq_iff_eq.mpr (String.le_antisymm atMost notBefore))
              · exact below other behind

theorem mem_sortedNames (name : String) (names : List String) :
    name ∈ sortedNames names ↔ name ∈ names := by
  induction names with
  | nil => rfl
  | cons first rest ih =>
      rw [sortedNames] at ih ⊢
      rw [List.foldr_cons, mem_insertName, ih, List.mem_cons]

theorem sortedNames_ascending (names : List String) : (sortedNames names).Pairwise (· < ·) := by
  induction names with
  | nil => exact .nil
  | cons first rest ih => exact insertName_ascending first ih

theorem sortedNames_nodup (names : List String) : (sortedNames names).Nodup :=
  (sortedNames_ascending names).imp String.ne_of_lt

def isImport (line : String) : Bool := "use ".toList.isPrefixOf line.toList

def importLines (lines : List String) : List String := lines.filter isImport

def importLine (modules : List String) (item : String) : String :=
  "use " ++ "::".intercalate (modules ++ [item]) ++ ";"

def serializerImport : String := "use serde::\x7bDeserialize, Serialize\x7d;"

def mapImport : String := "use std::collections::HashMap;"

theorem isImport_use (rest : String) : isImport ("use " ++ rest) = true := by
  simp [isImport]

@[simp] theorem importLines_append (front back : List String) :
    importLines (front ++ back) = importLines front ++ importLines back := by
  simp [importLines]

theorem importLines_all {lines : List String} (all : ∀ line ∈ lines, isImport line = true) :
    importLines lines = lines :=
  List.filter_eq_self.mpr all

theorem importLines_none {lines : List String} (noImport : ∀ line ∈ lines, isImport line = false) :
    importLines lines = [] := by
  simpa [importLines] using noImport

theorem importLines_map {α : Type} {line : α → String}
    (noImport : ∀ entry, isImport (line entry) = false) (entries : List α) :
    importLines (entries.map line) = [] := by
  apply importLines_none
  simpa using fun entry _ => noImport entry

theorem importLines_flatMap {α : Type} {lines : α → List String}
    (noImport : ∀ entry, importLines (lines entry) = []) (entries : List α) :
    importLines (entries.flatMap lines) = [] := by
  rw [importLines, List.filter_flatMap, List.flatMap_eq_nil_iff]
  exact fun entry _ => noImport entry

theorem imports_isImport (path : String) (types : List TypeExpr) (own : List String) :
    ∀ line ∈ imports path types own, isImport line = true := by
  intro line member
  rw [imports, List.mem_append, List.mem_map] at member
  rcases member with maps | ⟨name, _, rfl⟩
  · split at maps
    · obtain rfl := List.mem_singleton.mp maps
      decide
    · simp at maps
  · simp only [String.append_assoc]
    exact isImport_use _

theorem importLines_header (origin : String) : importLines (header origin) = [] := by
  simp [importLines, header, isImport, List.isPrefixOf]

theorem importLines_dataPreamble {imports : List String}
    (all : ∀ line ∈ imports, isImport line = true) :
    importLines (dataPreamble imports) = serializerImport :: imports := by
  have opening : importLines ["#![allow(unused_imports)]", "", serializerImport] =
      [serializerImport] := by
    decide
  have closing : importLines [""] = [] := by decide
  rw [dataPreamble, importLines_append, importLines_append, importLines_all all, closing,
    List.append_nil]
  exact congrArg (· ++ imports) opening

theorem importLines_doc (lines : List String) : importLines (lines.map ("/// " ++ ·)) = [] :=
  importLines_map (by simp [isImport, List.isPrefixOf]) lines

theorem FieldLines.importLines_lines (field : FieldLines) : importLines field.lines = [] := by
  have doc : importLines (field.doc.map ("    /// " ++ ·)) = [] :=
    importLines_map (by simp [isImport, List.isPrefixOf]) field.doc
  rw [lines, importLines_append, importLines_append, doc]
  split <;> simp [importLines, isImport, List.isPrefixOf]

theorem importLines_structLines (name : String) (fields : List FieldLines) :
    importLines (structLines name fields) = [] := by
  rw [structLines, importLines_append, importLines_append,
    importLines_flatMap FieldLines.importLines_lines]
  simp [importLines, isImport, List.isPrefixOf]

theorem Dto.importLines_source (dto : Dto) :
    importLines dto.source = serializerImport :: dto.imports := by
  rw [source, Dto.imports, importLines_append, importLines_append, importLines_append,
    importLines_header, importLines_dataPreamble (imports_isImport _ _ _), importLines_doc]
  split
  · rw [importLines_append, importLines_append, importLines_flatMap]
    · simp [importLines, isImport, List.isPrefixOf]
    · intro variant
      simp [importLines, isImport, List.isPrefixOf]
  · rw [importLines_structLines]
    simp

/-! Unfolding these two by their own equations is slow. -/

theorem Request.textConstant_eq (name value : String) : textConstant name value =
    "    pub const " ++ name ++ ": &'static str = \"" ++ value ++ "\";" :=
  rfl

theorem Request.flagConstant_eq (name : String) (value : Bool) : flagConstant name value =
    "    pub const " ++ name ++ ": bool = " ++ toString value ++ ";" :=
  rfl

theorem Request.importLines_sourceWith (request : Request) (role : String) {flags : List String}
    (bare : importLines flags = []) :
    importLines (request.sourceWith role flags) = serializerImport :: request.imports := by
  have opening : importLines (dataPreamble request.imports) = serializerImport :: request.imports :=
    importLines_dataPreamble (imports_isImport _ _ _)
  simp only [sourceWith, importLines_append, importLines_header, opening, importLines_doc,
    importLines_structLines, bare]
  simp [importLines, isImport, List.isPrefixOf, textConstant_eq]

theorem Request.importLines_source (request : Request) :
    importLines request.commandSource = serializerImport :: request.imports ∧
      importLines request.querySource = serializerImport :: request.imports := by
  constructor
  · apply importLines_sourceWith
    simp [importLines, isImport, List.isPrefixOf, flagConstant_eq]
  · exact importLines_sourceWith request _ rfl

theorem Validator.importLines_source (validator : Validator) :
    importLines validator.source =
      ["use super::super::dtos::" ++ Naming.fileStem validator.dtoName ++ "::" ++
        validator.dtoName ++ ";"] := by
  have rules : importLines (validator.rules.flatMap Rule.lines) = [] := by
    apply importLines_flatMap
    intro rule
    rw [Rule.lines, importLines_append]
    split <;> simp [importLines, isImport, List.isPrefixOf]
  rw [source, importLines_append, importLines_append, importLines_append, importLines_header,
    rules]
  simp [importLines, isImport, List.isPrefixOf]

theorem Handler.importLines_source (handler : Handler) (contractModule : String) :
    importLines (handler.source contractModule) =
      ["use " ++ handler.requestModule contractModule ++ "::\x7b " ++ handler.requestName ++ ", " ++
        (handler.requestName ++ "Response") ++ " \x7d;"] := by
  simp [importLines, isImport, List.isPrefixOf, source]

end ApiContracts
