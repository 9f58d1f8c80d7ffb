import ApiContracts.Proofs.OpenApi.Required

/-!
What merging makes of the declarations that it meets: each declared name keeps the place of its
first declaration, and its property is made from the last one.
-/

namespace ApiContracts.OpenApi

structure Declaration where
  name : String
  schema : Schema
  required : Bool

def Declaration.property (schemas : Schemas) (declaration : Declaration) : Property :=
  propertyOf schemas declaration.name declaration.schema declaration.required

@[simp] theorem Declaration.property_name (schemas : Schemas) (declaration : Declaration) :
    (declaration.property schemas).name = declaration.name :=
  propertyOf_name ..

def Keywords.declarations (keywords : Keywords Schema) : List Declaration :=
  keywords.properties.map fun (name, inner) => ⟨name, inner, keywords.required.contains name⟩

theorem Keywords.declared_eq (schemas : Schemas) (keywords : Keywords Schema) :
    keywords.declared schemas = keywords.declarations.map (·.property schemas) := by
  rw [declared, declarations, List.map_map]
  rfl

def declarations (schemas : Schemas) (levels : Nat) (schema : Schema) : List Declaration :=
  (mergeOrder schemas levels schema).flatMap (·.declarations)

theorem mem_declarations_iff (schemas : Schemas) (levels : Nat) (schema : Schema)
    (declaration : Declaration) :
    declaration ∈ declarations schemas levels schema ↔
      ∃ depth < levels, ∃ keywords, Part schemas schema depth (.object keywords) ∧
        declaration ∈ keywords.declarations := by
  simp only [declarations, List.mem_flatMap, mem_mergeOrder_iff]
  constructor
  · rintro ⟨keywords, ⟨depth, below, inside⟩, declares⟩
    exact ⟨depth, below, keywords, inside, declares⟩
  · rintro ⟨depth, below, keywords, inside, declares⟩
    exact ⟨keywords, ⟨depth, below, inside⟩, declares⟩

theorem collect_eq_putAll (schemas : Schemas) (levels : Nat) (schema : Schema)
    (found : List Property) :
    collect schemas levels schema found =
      putAll ((declarations schemas levels schema).map (·.property schemas)) found := by
  rw [collect_eq, declarations, List.map_flatMap]
  simp only [Keywords.declared_eq]

def IsLast (met : List Declaration) (declaration : Declaration) : Prop :=
  ∃ before after, met = before ++ declaration :: after ∧
    ∀ later ∈ after, later.name ≠ declaration.name

/-- Merging ends for all named schemas, whether or not they lead back to themselves: it meets what
the objects declare that lie less than so many levels deep. It comes to one property for each name
that it meets, in the order of the first declarations and made from the last ones. -/
theorem collect_settles (schemas : Schemas) (levels : Nat) (schema : Schema) :
    let met := declarations schemas levels schema
    let names := (collect schemas levels schema []).map (·.name)
    (∀ declaration, declaration ∈ met ↔
      ∃ depth < levels, ∃ keywords, Part schemas schema depth (.object keywords) ∧
        declaration ∈ keywords.declarations) ∧
    names.Nodup ∧
    (∀ name, name ∈ names ↔ name ∈ met.map (·.name)) ∧
    (names.Pairwise fun earlier later =>
      (met.map (·.name)).idxOf earlier < (met.map (·.name)).idxOf later) ∧
    ∀ property ∈ collect schemas levels schema [],
      ∃ declaration, IsLast met declaration ∧ declaration.property schemas = property := by
  have same : ((declarations schemas levels schema).map (·.property schemas)).map (·.name) =
      (declarations schemas levels schema).map (·.name) := by
    simp [Function.comp_def]
  simp only [collect_eq_putAll, putAll_eq]
  refine ⟨mem_declarations_iff schemas levels schema, putAllBy_keys_nodup List.nodup_nil, ?_, ?_, ?_⟩
  · intro name
    rw [mem_putAllBy_keys, same]
    simp
  · rw [← same]
    exact putAllBy_keys_ordered _
  · intro property member
    have empty : (([] : List Property).map (·.name)).Nodup := List.nodup_nil
    obtain ⟨before, after, split, others⟩ | ⟨nowhere, _⟩ := last_of_mem_putAllBy empty member
    case inr => simp at nowhere
    obtain ⟨first, rest, metSplit, _, restSplit⟩ := List.map_eq_append_iff.mp split
    obtain ⟨declaration, later, rfl, made, rfl⟩ := List.map_eq_cons_iff.mp restSplit
    refine ⟨declaration, ⟨first, later, metSplit, ?_⟩, made⟩
    intro other isLater
    have different := others _ (List.mem_map_of_mem isLater)
    rwa [← made, Declaration.property_name, Declaration.property_name] at different

def chainLinks : Schemas :=
  let link (other : String) (own : String) : Schema :=
    .object { Keywords.ofWord "object" with
      properties := [("kind", .object (.ofWord own)), (own, .object (.ofWord own))]
      allOf := [.reference (schemaRefStart ++ other) none] }
  [("Inner", link "Outer" "integer"), ("Outer", link "Inner" "string")]

theorem chainLinks_settle :
    let outer : Schema := .reference (schemaRefStart ++ "Outer") none
    let links := collect chainLinks (maxAliasDepth + 1) outer []
    links.map (fun property => (property.name, property.type)) =
      [("kind", .scalar .string), ("integer", .scalar .integer), ("string", .scalar .string)] ∧
    ∀ property ∈ links, ∃ declaration,
      IsLast (declarations chainLinks (maxAliasDepth + 1) outer) declaration ∧
        declaration.property chainLinks = property :=
  ⟨by decide +kernel, (collect_settles chainLinks (maxAliasDepth + 1) _).2.2.2.2⟩

end ApiContracts.OpenApi
