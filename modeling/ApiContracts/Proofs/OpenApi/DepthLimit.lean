import ApiContracts.Proofs.OpenApi.Acyclic
import ApiContracts.Proofs.OpenApi.LastDeclaration
import ApiContracts.Proofs.OpenApi.Reference

/-!
The limit on how deep schemas are followed, beside the same rules without it. The limit counts every
schema on the way, so it cuts off more than references that lead back to themselves: types that
nest deeper become free-form, and properties that only deeper ancestors declare are lost.
-/

namespace ApiContracts.OpenApi

def Declaration.typed (schemas : Schemas) (typing : Typing) (declaration : Declaration) : Property :=
  { declaration.property schemas with type := typing.type, nullable := typing.nullable }

@[simp] theorem Declaration.typed_name (schemas : Schemas) (typing : Typing)
    (declaration : Declaration) : (declaration.typed schemas typing).name = declaration.name :=
  declaration.property_name schemas

@[simp] theorem Declaration.typed_typeOf (schemas : Schemas) (declaration : Declaration) :
    declaration.typed schemas (typeOf schemas declaration.schema) = declaration.property schemas := by
  obtain ⟨name, schema, required⟩ := declaration
  cases schema <;> rfl

def typedProperties (schemas : Schemas) (typed : Schema → Typing) (met : List Declaration) :
    List Property :=
  met.map fun declaration => declaration.typed schemas (typed declaration.schema)

@[simp] theorem typedProperties_names (schemas : Schemas) (typed : Schema → Typing)
    (met : List Declaration) :
    (typedProperties schemas typed met).map (·.name) = met.map (·.name) := by
  simp [typedProperties, Function.comp_def]

def collectStep (schemas : Schemas) (typed : Schema → Typing)
    (follow : Schema → List Property → List Property) : Schema → List Property → List Property
  | .always _, found => found
  | .reference path _, found =>
    match schemas.lookup (refName path) with
    | some target => follow target found
    | none => found
  | .object keywords, found =>
    putAll (typedProperties schemas typed keywords.declarations)
      (keywords.allOf.foldl (fun found part => follow part found) found)

theorem collect_succ (schemas : Schemas) (budget : Nat) (schema : Schema) (found : List Property) :
    collect schemas (budget + 1) schema found =
      collectStep schemas (typeOf schemas) (collect schemas budget) schema found := by
  cases schema with
  | always value => rfl
  | reference path note =>
      cases found : schemas.lookup (refName path) with
      | none => simp [collect, collectStep, found]
      | some target => simp [collect, collectStep, found]
  | object keywords =>
      rw [collect, collectStep, typedProperties]
      simp only [Declaration.typed_typeOf, ← Keywords.declared_eq]
      rw [Keywords.declared, putAll, List.foldl_map]

/-- Typings and collected properties that keep to the rules with no limit to how deep schemas are
followed. -/
structure Unlimited (schemas : Schemas) (whole : Schema → Typing)
    (gathered : Schema → List Property → List Property) : Prop where
  types : ∀ schema, whole schema = typingStep schemas whole schema
  properties : ∀ schema found,
    gathered schema found = collectStep schemas whole gathered schema found

theorem declarations_reference (schemas : Schemas) (levels : Nat) (path : String)
    (note : Option String) :
    declarations schemas (levels + 1) (.reference path note) =
      match schemas.lookup (refName path) with
      | some target => declarations schemas levels target
      | none => [] := by
  rw [declarations, mergeOrder]
  cases schemas.lookup (refName path) <;> rfl

theorem declarations_object (schemas : Schemas) (levels : Nat) (keywords : Keywords Schema) :
    declarations schemas (levels + 1) (.object keywords) =
      keywords.allOf.flatMap (declarations schemas levels) ++ keywords.declarations := by
  rw [declarations, mergeOrder, List.flatMap_append, List.flatMap_assoc, List.flatMap_singleton]
  rfl

theorem collectStep_eq {schemas : Schemas} {typed : Schema → Typing}
    {follow : Schema → List Property → List Property} {levels : Nat} {schema : Schema}
    (within : withinLevels schemas (levels + 1) schema = true)
    (followed : ∀ part, withinLevels schemas levels part = true → ∀ found,
      follow part found =
        putAll (typedProperties schemas typed (declarations schemas levels part)) found)
    (found : List Property) :
    collectStep schemas typed follow schema found =
      putAll (typedProperties schemas typed (declarations schemas (levels + 1) schema)) found := by
  cases schema with
  | always value => rfl
  | reference path note =>
      rw [withinLevels] at within
      rw [collectStep, declarations_reference]
      split
      next target isTarget =>
          simp only [isTarget] at within
          exact followed target within found
      next => rfl
  | object keywords =>
      rw [withinLevels, List.all_eq_true] at within
      have parts := foldl_putAll (fun part isPart => followed part (within part isPart)) found
      rw [collectStep, parts, ← putAll_append, declarations_object]
      simp only [typedProperties, List.map_append, List.map_flatMap]

theorem Unlimited.gathered_eq {schemas : Schemas} {whole : Schema → Typing}
    {gathered : Schema → List Property → List Property}
    (unlimited : Unlimited schemas whole gathered) {levels : Nat} {schema : Schema}
    (within : withinLevels schemas levels schema = true) (found : List Property) :
    gathered schema found =
      putAll (typedProperties schemas whole (declarations schemas levels schema)) found := by
  induction levels generalizing schema found with
  | zero => simp [withinLevels] at within
  | succ levels ih =>
      rw [unlimited.properties]
      exact collectStep_eq within (fun part inside => ih inside) found

theorem declarations_stable {schemas : Schemas} {levels more : Nat} {schema : Schema}
    (within : withinLevels schemas levels schema = true) (le : levels ≤ more) :
    declarations schemas more schema = declarations schemas levels schema := by
  induction levels generalizing more schema with
  | zero => simp [withinLevels] at within
  | succ levels ih =>
      obtain ⟨more, rfl⟩ := Nat.exists_eq_succ_of_ne_zero (Nat.ne_of_gt (Nat.lt_of_lt_of_le
        (Nat.succ_pos levels) le))
      have less := Nat.le_of_succ_le_succ le
      cases schema with
      | always value => rfl
      | reference path note =>
          rw [withinLevels] at within
          rw [declarations_reference, declarations_reference]
          split
          next target isTarget =>
              simp only [isTarget] at within
              exact ih within less
          next => rfl
      | object keywords =>
          rw [withinLevels, List.all_eq_true] at within
          rw [declarations_object, declarations_object]
          congr 1
          exact List.flatMap_congr fun part isPart => ih (within part isPart) less

theorem declarations_settled {schemas : Schemas} {levels more : Nat} {schema : Schema}
    (first : withinLevels schemas levels schema = true)
    (second : withinLevels schemas more schema = true) :
    declarations schemas levels schema = declarations schemas more schema := by
  rcases Nat.le_total levels more with le | le
  · exact (declarations_stable first le).symm
  · exact declarations_stable second le

theorem exists_unlimited {schemas : Schemas} (types : ∀ schema, ∃ levels, Ends schemas levels schema)
    (trees : ∀ schema, ∃ levels, withinLevels schemas levels schema = true) :
    ∃ whole gathered, Unlimited schemas whole gathered := by
  choose far ends using types
  choose deep within using trees
  -- Every schema is followed for the levels that its own type and tree need.
  let whole (schema : Schema) : Typing := typing schemas (far schema) schema
  let gathered (schema : Schema) (found : List Property) : List Property :=
    putAll (typedProperties schemas whole (declarations schemas (deep schema) schema)) found
  refine ⟨whole, gathered, ?_, ?_⟩
  · intro schema
    have ended := ends schema
    cases size : far schema with
    | zero => exact absurd (size ▸ ended) (not_ends_zero schemas schema)
    | succ levels =>
        rw [size] at ended
        have unfolded : whole schema = typing schemas (levels + 1) schema :=
          typing_settled (ends schema) ended
        rw [unfolded, typing_succ]
        refine typingStep_congr ?_
        intro layer inner source
        exact typing_settled (ends_iff.mp ended layer inner source) (ends inner)
  · intro schema found
    have inside := within schema
    change putAll _ found = _
    cases size : deep schema with
    | zero => simp [size, withinLevels] at inside
    | succ levels =>
        rw [size] at inside
        refine (collectStep_eq inside ?_ found).symm
        intro part isInside found
        rw [declarations_settled isInside (within part)]

theorem Unlimited.unique {schemas : Schemas} (types : ∀ schema, ∃ levels, Ends schemas levels schema)
    (trees : ∀ schema, ∃ levels, withinLevels schemas levels schema = true)
    {whole other : Schema → Typing} {gathered collected : Schema → List Property → List Property}
    (left : Unlimited schemas whole gathered) (right : Unlimited schemas other collected) :
    whole = other ∧ gathered = collected := by
  have same : whole = other := by
    funext schema
    obtain ⟨levels, ends⟩ := types schema
    have constant : Stepwise schemas fun _ => whole := fun _ => left.types
    have another : Stepwise schemas fun _ => other := fun _ => right.types
    exact constant.agrees another ends
  refine ⟨same, ?_⟩
  funext schema found
  obtain ⟨levels, within⟩ := trees schema
  rw [left.gathered_eq within, right.gathered_eq within, same]

/-- What the limit cuts off, by what is given without it. -/
structure CutOff (schemas : Schemas) (whole : Schema → Typing)
    (gathered : Schema → List Property → List Property) : Prop where
  types : ∀ schema, typeOf schemas schema = whole schema ↔
    ∀ layers deep, layers.length = maxAliasDepth + 1 → Descends schemas schema layers deep →
      (whole deep).type = .scalar .any ∧
        (Layer.Transparent layers → (whole deep).nullable = false)
  properties : ∀ schema,
    (∀ depth part, Part schemas schema depth part → depth ≤ maxAliasDepth) →
    (∀ declaration ∈ declarations schemas (maxAliasDepth + 1) schema,
      typeOf schemas declaration.schema = whole declaration.schema) →
    ∀ found, collect schemas (maxAliasDepth + 1) schema found = gathered schema found
  lost : ∀ schema name,
    name ∈ (gathered schema []).map (·.name) ∧
        name ∉ (collect schemas (maxAliasDepth + 1) schema []).map (·.name) ↔
      (∃ depth keywords, Part schemas schema depth (.object keywords) ∧ name ∈ keywords.names) ∧
        ∀ depth keywords, Part schemas schema depth (.object keywords) → name ∈ keywords.names →
          maxAliasDepth < depth

theorem Keywords.mem_names_iff_declared (keywords : Keywords Schema) (name : String) :
    name ∈ keywords.names ↔ name ∈ keywords.declarations.map (·.name) := by
  simp [names, declarations, Function.comp_def]

theorem mem_typedProperties_names (schemas : Schemas) (typed : Schema → Typing) (levels : Nat)
    (schema : Schema) (name : String) :
    name ∈ (putAll (typedProperties schemas typed (declarations schemas levels schema)) []).map
        (·.name) ↔
      ∃ depth < levels, ∃ keywords, Part schemas schema depth (.object keywords) ∧
        name ∈ keywords.names := by
  rw [putAll_eq, mem_putAllBy_keys, typedProperties_names]
  simp only [List.mem_map, mem_declarations_iff, Keywords.mem_names_iff_declared, List.not_mem_nil,
    false_and, exists_false, or_false]
  constructor
  · rintro ⟨declaration, ⟨depth, below, keywords, inside, declares⟩, named⟩
    exact ⟨depth, below, keywords, inside, declaration, declares, named⟩
  · rintro ⟨depth, below, keywords, inside, declaration, declares, named⟩
    exact ⟨declaration, ⟨depth, below, keywords, inside, declares⟩, named⟩

theorem collect_eq_typed (schemas : Schemas) (levels : Nat) (schema : Schema)
    (found : List Property) :
    collect schemas levels schema found =
      putAll (typedProperties schemas (typeOf schemas) (declarations schemas levels schema))
        found := by
  simp only [collect_eq_putAll, typedProperties, Declaration.typed_typeOf]

theorem Unlimited.cutOff {schemas : Schemas} {whole : Schema → Typing}
    {gathered : Schema → List Property → List Property}
    (trees : ∀ schema, ∃ levels, withinLevels schemas levels schema = true)
    (unlimited : Unlimited schemas whole gathered) : CutOff schemas whole gathered where
  types schema := typing_eq_solution_iff unlimited.types (maxAliasDepth + 1) schema
  properties schema shallow typed found := by
    have within : withinLevels schemas (maxAliasDepth + 1) schema = true := by
      rw [withinLevels_iff]
      exact fun depth part inside => Nat.lt_succ_of_le (shallow depth part inside)
    rw [collect_eq_typed, unlimited.gathered_eq within]
    have same := List.map_congr_left fun declaration isDeclared =>
      congrArg (declaration.typed schemas) (typed declaration isDeclared)
    rw [typedProperties, typedProperties, same]
  lost schema name := by
    obtain ⟨levels, within⟩ := trees schema
    have bound := (withinLevels_iff schemas levels schema).mp within
    rw [unlimited.gathered_eq within, collect_eq_typed, mem_typedProperties_names,
      mem_typedProperties_names]
    constructor
    · rintro ⟨⟨depth, _, keywords, inside, declares⟩, missing⟩
      refine ⟨⟨depth, keywords, inside, declares⟩, ?_⟩
      intro other another isInside alsoDeclares
      by_contra close
      exact missing ⟨other, by omega, another, isInside, alsoDeclares⟩
    · rintro ⟨⟨depth, keywords, inside, declares⟩, far⟩
      refine ⟨⟨depth, bound depth _ inside, keywords, inside, declares⟩, ?_⟩
      rintro ⟨other, close, another, isInside, alsoDeclares⟩
      have beyond := far other another isInside alsoDeclares
      omega

structure Limited (schemas : Schemas) : Prop where
  types : ∀ levels schema,
    typing schemas (levels + 1) schema = typingStep schemas (typing schemas levels) schema
  properties : ∀ levels schema found, collect schemas (levels + 1) schema found =
    collectStep schemas (typeOf schemas) (collect schemas levels) schema found

theorem limited (schemas : Schemas) : Limited schemas where
  types := typing_succ schemas
  properties := collect_succ schemas

/-- Where no references lead back to where they started, there is one way to keep to the rules with
no limit. By it one can tell what the limit cuts off. -/
theorem limit_exact {schemas : Schemas} (acyclic : Acyclic schemas) :
    Limited schemas ∧
    ∃ whole gathered, Unlimited schemas whole gathered ∧
      (∀ other collected, Unlimited schemas other collected →
        other = whole ∧ collected = gathered) ∧
      CutOff schemas whole gathered := by
  refine ⟨limited schemas, ?_⟩
  have types (schema : Schema) := exists_ends (acyclic.acc schema)
  have trees (schema : Schema) := exists_withinLevels (acyclic.acc schema)
  obtain ⟨whole, gathered, unlimited⟩ := exists_unlimited types trees
  refine ⟨whole, gathered, unlimited, ?_, unlimited.cutOff trees⟩
  intro other collected alsoUnlimited
  exact alsoUnlimited.unique types trees unlimited

/-! ### Samples that nest deeper -/

def generation (number : Nat) : String := String.ofList (List.replicate (number + 1) 'A')

def ancestor (number : Nat) : Schema :=
  .object { Keywords.ofWord "object" with
    properties := [(generation number, .object (.ofWord "string"))]
    allOf :=
      match number with
      | 0 => []
      | before + 1 => [.reference (schemaRefStart ++ generation before) none] }

def lineage : Schemas :=
  (List.range 10).map fun number => (generation number, ancestor number)

def grid : (levels : Nat) → Schema
  | 0 => .object (.ofWord "string")
  | levels + 1 => .object { Keywords.ofWord "array" with items := some (grid levels) }

theorem not_cites_word {word name : String} : ¬Cites (.object (.ofWord word)) name := by
  rintro (_ | ⟨isChild, _⟩)
  simp [Keywords.children, Keywords.ofWord] at isChild

theorem refName_generation (number : Nat) :
    refName (schemaRefStart ++ generation number) = generation number := by
  refine refName_append ?_ rfl
  simp [generation, List.mem_replicate]

theorem ancestor_cites {number : Nat} {name : String}
    (cites : Cites (ancestor number) name) : name.length < (generation number).length := by
  cases cites with
  | @inside _ child _ isChild inside =>
      cases number with
      | zero =>
          have isWord : child = .object (.ofWord "string") := by
            simpa [Keywords.children, Keywords.ofWord] using isChild
          exact absurd (isWord ▸ inside) not_cites_word
      | succ before =>
          have cases : child = .object (.ofWord "string") ∨
              child = .reference (schemaRefStart ++ generation before) none := by
            simpa [Keywords.children, Keywords.ofWord] using isChild
          rcases cases with rfl | rfl
          · exact absurd inside not_cites_word
          · cases inside
            rw [refName_generation]
            simp [generation]

theorem lineage_entry {name : String} {schema : Schema} (found : lineage.lookup name = some schema) :
    ∃ number, name = generation number ∧ schema = ancestor number := by
  obtain ⟨number, _, same⟩ := List.mem_map.mp (mem_of_lookup found)
  obtain ⟨rfl, rfl⟩ := Prod.mk.inj same
  exact ⟨number, rfl, rfl⟩

theorem lineage_refersTo {name other : String} (refers : RefersTo lineage name other) :
    other.length < name.length := by
  obtain ⟨schema, found, cites⟩ := refers
  obtain ⟨number, rfl, rfl⟩ := lineage_entry found
  exact ancestor_cites cites

theorem lineage_acyclic : Acyclic lineage := by
  intro name cycle
  have shorter {first last : String} (path : Relation.TransGen (RefersTo lineage) first last) :
      last.length < first.length := by
    induction path with
    | single refers => exact lineage_refersTo refers
    | tail _ refers ih => exact Nat.lt_trans (lineage_refersTo refers) ih
  exact Nat.lt_irrefl _ (shorter cycle)

def IsAlias (schemas : Schemas) (name : String) : Prop :=
  name ∈ schemas.map Prod.fst ∧ isModelName schemas name = false

def AliasesWithin (schemas : Schemas) (links : Nat) : Prop :=
  ∀ chain : List String, chain.IsChain (RefersTo schemas) →
    (∀ name ∈ chain, IsAlias schemas name) → chain.length ≤ links + 1

theorem lineage_no_aliases (name : String) : ¬IsAlias lineage name := by
  have models : ∀ name ∈ lineage.map Prod.fst, isModelName lineage name = true := by
    decide +kernel
  rintro ⟨isName, isAlias⟩
  simp [models name isName] at isAlias

theorem grid_type {schemas : Schemas} {whole : Schema → Typing}
    (solves : ∀ schema, whole schema = typingStep schemas whole schema) (levels : Nat) :
    (whole (grid levels)).type = TypeExpr.array^[levels] (.scalar .string) := by
  induction levels with
  | zero => rw [solves]; rfl
  | succ levels ih =>
      rw [solves, Function.iterate_succ_apply', ← ih]
      rfl

theorem lineage_limit_exact : Acyclic lineage ∧ Limited lineage ∧
    ∃ whole gathered, Unlimited lineage whole gathered ∧
      (∀ other collected, Unlimited lineage other collected →
        other = whole ∧ collected = gathered) ∧
      CutOff lineage whole gathered :=
  ⟨lineage_acyclic, limit_exact lineage_acyclic⟩

/-- No reference leads back and no alias refers to another. Yet an array of seventeen dimensions
loses the type of its cells, and the tenth generation loses what the first one hands down. -/
theorem lineage_cut_off :
    Acyclic lineage ∧ AliasesWithin lineage maxAliasDepth ∧
    (typeOf lineage (grid 17)).type = TypeExpr.array^[17] (.scalar .any) ∧
    "A" ∉ (collect lineage (maxAliasDepth + 1) (ancestor 9) []).map (·.name) ∧
    (∃ whole gathered, Unlimited lineage whole gathered) ∧
    ∀ whole gathered, Unlimited lineage whole gathered →
      (whole (grid 17)).type = TypeExpr.array^[17] (.scalar .string) ∧
      "A" ∈ (gathered (ancestor 9) []).map (·.name) := by
  have types (schema : Schema) := exists_ends (lineage_acyclic.acc schema)
  have trees (schema : Schema) := exists_withinLevels (lineage_acyclic.acc schema)
  have aliases : AliasesWithin lineage maxAliasDepth := by
    intro chain _ isAliases
    cases chain with
    | nil => simp
    | cons name _ => exact absurd (isAliases name List.mem_cons_self) (lineage_no_aliases name)
  have within : withinLevels lineage 19 (ancestor 9) = true := by decide +kernel
  refine ⟨lineage_acyclic, aliases, by decide +kernel, by decide +kernel,
    exists_unlimited types trees, ?_⟩
  intro whole gathered unlimited
  refine ⟨grid_type unlimited.types 17, ?_⟩
  rw [unlimited.gathered_eq within, putAll_eq, mem_putAllBy_keys, typedProperties_names]
  exact .inl (by decide +kernel)

end ApiContracts.OpenApi
