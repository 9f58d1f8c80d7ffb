import ApiContracts.Proofs.OpenApi.Acceptance
import ApiContracts.Proofs.OpenApi.Merging

/-!
Which properties of a model are required. Only the object that declares a property is asked, and of
several such objects the last one merged; what other parts of the schema demand of the property is
not looked at.
-/

namespace ApiContracts.OpenApi

def Demands (schemas : Schemas) (schema : Schema) (name : String) : Prop :=
  ∃ depth part, Part schemas schema depth (.object part) ∧ name ∈ part.required

theorem mem_modelOf_properties {schemas : Schemas} {keywords : Keywords Schema} {name : String}
    {property : Property}
    (member : property ∈ (modelOf schemas name (.object keywords)).properties) :
    property ∈ collect schemas (maxAliasDepth + 1) (.object keywords) [] := by
  simp only [modelOf] at member
  split at member
  · exact member
  · simp at member

/-- Where the tree of a schema is at most as deep as it is followed, the properties of its model are
those that the objects in the tree declare. A property is required just if the last object merged
that declares it lists it as required, and so only if some object of the tree does. -/
theorem model_required_iff {schemas : Schemas} {keywords : Keywords Schema}
    (shallow : ∀ depth part, Part schemas (.object keywords) depth part → depth ≤ maxAliasDepth)
    (name : String) :
    (∀ part, part ∈ mergeOrder schemas (maxAliasDepth + 1) (.object keywords) ↔
      ∃ depth, Part schemas (.object keywords) depth (.object part)) ∧
    (keywords.texts = [] → ∀ declared,
      declared ∈ (modelOf schemas name (.object keywords)).properties.map (·.name) ↔
        ∃ depth part, Part schemas (.object keywords) depth (.object part) ∧
          declared ∈ part.names) ∧
    ∀ property ∈ (modelOf schemas name (.object keywords)).properties,
      (∃ last, LastDeclares (mergeOrder schemas (maxAliasDepth + 1) (.object keywords))
          property.name last ∧
        (property.required = true ↔ property.name ∈ last.required)) ∧
      (property.required = true → Demands schemas (.object keywords) property.name) := by
  have order (part : Keywords Schema) :
      part ∈ mergeOrder schemas (maxAliasDepth + 1) (.object keywords) ↔
        ∃ depth, Part schemas (.object keywords) depth (.object part) := by
    rw [mem_mergeOrder_iff]
    constructor
    · rintro ⟨depth, _, inside⟩
      exact ⟨depth, inside⟩
    · rintro ⟨depth, inside⟩
      exact ⟨depth, Nat.lt_succ_of_le (shallow depth _ inside), inside⟩
  refine ⟨order, ?_, ?_⟩
  · intro object declared
    simp only [modelOf, object, List.isEmpty_nil, ↓reduceIte, mem_collect_names_iff, order]
    constructor
    · rintro ⟨part, ⟨depth, inside⟩, declares⟩
      exact ⟨depth, part, inside, declares⟩
    · rintro ⟨depth, part, inside, declares⟩
      exact ⟨part, ⟨depth, inside⟩, declares⟩
  · intro property member
    obtain ⟨last, lastDeclares, declares⟩ :=
      exists_last_of_mem_collect (mem_modelOf_properties member)
    have required := Keywords.required_iff declares
    refine ⟨⟨last, lastDeclares, required⟩, ?_⟩
    intro isRequired
    obtain ⟨_, before, after, split, _⟩ := lastDeclares
    obtain ⟨depth, inside⟩ := (order last).mp (by simp [split])
    exact ⟨depth, last, inside, required.mp isRequired⟩

def puppy : Keywords Schema :=
  { Keywords.ofWord "object" with
    allOf :=
      [.reference (schemaRefStart ++ "Pet") none,
        .object { Keywords.ofWord "object" with
          required := ["id", "name"]
          properties := [("name", .object (.ofWord "string"))] }] }

def litter : Schemas :=
  [("Pet", .object { Keywords.ofWord "object" with
      required := ["kind"]
      properties :=
        [("id", .object (.ofWord "integer")), ("kind", .object (.ofWord "string"))] }),
    ("Puppy", .object puppy)]

theorem puppy_shallow (depth : Nat) (part : Schema)
    (inside : Part litter (.object puppy) depth part) : depth ≤ maxAliasDepth :=
  Nat.le_of_lt_succ ((withinLevels_iff litter (maxAliasDepth + 1) (.object puppy)).mp
    (by decide +kernel) depth part inside)

theorem puppy_required :
    (∀ depth part, Part litter (.object puppy) depth part → depth ≤ maxAliasDepth) ∧
      puppy.texts = [] ∧
      (modelOf litter "Puppy" (.object puppy)).properties.map
        (fun property => (property.name, property.required)) =
          [("id", false), ("kind", true), ("name", true)] ∧
      ∀ property ∈ (modelOf litter "Puppy" (.object puppy)).properties,
        (∃ last, LastDeclares (mergeOrder litter (maxAliasDepth + 1) (.object puppy))
            property.name last ∧
          (property.required = true ↔ property.name ∈ last.required)) ∧
        (property.required = true → Demands litter (.object puppy) property.name) :=
  ⟨puppy_shallow, by decide +kernel, by decide +kernel,
    (model_required_iff puppy_shallow "Puppy").2.2⟩

/-- One part demands the property that another declares, and it is not required. -/
theorem puppy_id_not_required :
    (∀ depth part, Part litter (.object puppy) depth part → depth ≤ maxAliasDepth) ∧
      Demands litter (.object puppy) "id" ∧
      ∃ property ∈ (modelOf litter "Puppy" (.object puppy)).properties,
        property.name = "id" ∧ property.required = false := by
  refine ⟨puppy_shallow, ?_, ?_⟩
  · exact ⟨1, _, .inside (List.mem_cons_of_mem _ List.mem_cons_self) .root, by decide⟩
  · have flags : ((modelOf litter "Puppy" (.object puppy)).properties.map
        fun property => (property.name, property.required)) =
          [("id", false), ("kind", true), ("name", true)] := by
      decide +kernel
    obtain ⟨id, _, properties, flag, _⟩ := List.map_eq_cons_iff.mp flags
    obtain ⟨named, optional⟩ := Prod.mk.inj flag
    exact ⟨id, by simp [properties], named, optional⟩

end ApiContracts.OpenApi
