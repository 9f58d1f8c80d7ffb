import ApiContracts.Contract.Closure

/-!
The parts of types. A name is inside a type if the reference to it is one of the type's parts, which
is just where the list of the type's references has it.
-/

namespace ApiContracts

inductive TypeExpr.Within (part : TypeExpr) : TypeExpr → Prop
  | here : Within part part
  | element {element : TypeExpr} : Within part element → Within part (.array element)
  | key {key value : TypeExpr} : Within part key → Within part (.map key value)
  | value {key value : TypeExpr} : Within part value → Within part (.map key value)

theorem TypeExpr.mem_references_iff (name : String) (type : TypeExpr) :
    name ∈ type.references ↔ (TypeExpr.reference name).Within type := by
  induction type with
  | scalar s =>
      simp only [references, List.not_mem_nil, false_iff]
      rintro ⟨⟩
  | reference other =>
      rw [references, List.mem_singleton]
      constructor
      · rintro rfl
        exact .here
      · rintro ⟨⟩
        rfl
  | array element ih =>
      rw [references, ih]
      constructor
      · exact .element
      · rintro ⟨⟩
        assumption
  | map key value ihKey ihValue =>
      rw [references, List.mem_append, ihKey, ihValue]
      constructor
      · rintro (inKey | inValue)
        · exact .key inKey
        · exact .value inValue
      · rintro (_ | _ | inKey | inValue)
        · exact .inl inKey
        · exact .inr inValue

instance (name : String) (type : TypeExpr) : Decidable ((TypeExpr.reference name).Within type) :=
  decidable_of_iff _ (TypeExpr.mem_references_iff name type)

theorem TypeExpr.usesMap_iff (type : TypeExpr) :
    type.usesMap = true ↔ ∃ key value, (TypeExpr.map key value).Within type := by
  induction type with
  | scalar s =>
      simp only [usesMap, Bool.false_eq_true, false_iff, not_exists]
      rintro key value ⟨⟩
  | reference name =>
      simp only [usesMap, Bool.false_eq_true, false_iff, not_exists]
      rintro key value ⟨⟩
  | array element ih =>
      rw [usesMap, ih]
      constructor
      · rintro ⟨key, value, inside⟩
        exact ⟨key, value, .element inside⟩
      · rintro ⟨key, value, _ | inside⟩
        exact ⟨key, value, inside⟩
  | map key value => exact ⟨fun _ => ⟨key, value, .here⟩, fun _ => rfl⟩

def Model.Mentions (model : Model) (name : String) : Prop :=
  ∃ property ∈ model.properties, (TypeExpr.reference name).Within property.type

theorem Model.mem_references_iff (model : Model) (name : String) :
    name ∈ model.references ↔ model.Mentions name := by
  simp only [references, Mentions, List.mem_flatMap, TypeExpr.mem_references_iff]

instance (model : Model) (name : String) : Decidable (model.Mentions name) :=
  decidable_of_iff _ (model.mem_references_iff name)

end ApiContracts
