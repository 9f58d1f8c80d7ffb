import ApiContracts.OpenApi.Mapping
import ApiContracts.Proofs.Naming.DtoName

/-!
The DTO form of a type, taken again. It changes no name that carries the suffix, so a second time
there is nothing left to change, with one exception. A reference without a name becomes one to the
bare suffix, which counts as a name of its own and is extended once more.
-/

namespace ApiContracts

namespace TypeExpr

def replaced : TypeExpr → List String
  | scalar _ => []
  | reference name => [name]
  | array element => element.replaced
  | map _ value => value.replaced

theorem replaced_toDto (type : TypeExpr) :
    type.toDto.replaced = type.replaced.map Naming.dtoName := by
  induction type with
  | scalar s => rfl
  | reference name => rfl
  | array element ih => exact ih
  | map key value _ ih => exact ih

theorem toDto_eq_self_iff (type : TypeExpr) :
    type.toDto = type ↔ ∀ name ∈ type.replaced, Naming.isDtoName name = true := by
  induction type with
  | scalar s => simp [toDto, replaced]
  | reference name => simpa [toDto, replaced] using Naming.dtoName_eq_self_iff name
  | array element ih => simpa [toDto, replaced] using ih
  | map key value _ ih => simpa [toDto, replaced] using ih

theorem toDto_toDto_iff (type : TypeExpr) :
    type.toDto.toDto = type.toDto ↔ "" ∉ type.replaced := by
  rw [toDto_eq_self_iff, replaced_toDto]
  simp only [List.forall_mem_map, Naming.isDtoName_dtoName_iff]
  constructor
  · intro named empty
    exact named "" empty rfl
  · rintro named _ member rfl
    exact named member

/-- The DTO form of a DTO form is the same type just if no replaced name is empty, and a third time
changes no type any more. For names alone: only the empty one is extended twice. -/
theorem toDto_settles (type : TypeExpr) (name : String) :
    (type.toDto.toDto = type.toDto ↔ "" ∉ type.replaced) ∧
      type.toDto.toDto.toDto = type.toDto.toDto ∧
      (Naming.dtoName (Naming.dtoName name) = Naming.dtoName name ↔ name ≠ "") := by
  refine ⟨type.toDto_toDto_iff, ?_, ?_⟩
  · rw [toDto_toDto_iff, replaced_toDto, List.mem_map]
    rintro ⟨replaced, _, empty⟩
    exact Naming.dtoName_ne_empty replaced empty
  · rw [Naming.dtoName_eq_self_iff, Naming.isDtoName_dtoName_iff]

end TypeExpr

namespace OpenApi

/-- A reference to a schema without a name is read as one to the empty name, and its DTO form is
not its own. -/
theorem nameless_extended_twice :
    (typeOf [] (.reference "#/components/schemas/" none)).type = .reference "" ∧
      (TypeExpr.reference "").toDto = .reference "Dto" ∧
      (TypeExpr.reference "").toDto.toDto = .reference "DtoDto" ∧
      (TypeExpr.reference "").toDto.toDto ≠ (TypeExpr.reference "").toDto := by
  decide +kernel

end OpenApi

end ApiContracts
