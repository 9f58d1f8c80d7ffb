import ApiContracts.Proofs.OpenApi.Acyclic
import ApiContracts.Proofs.OpenApi.Reference

/-!
Aliases are inlined for good. Where all references lead to named schemas, no type has one to an
alias left in it, however many aliases there are on the way; one that leads back to itself ends with
a free-form type.
-/

namespace ApiContracts

def TypeExpr.Inlined (schemas : OpenApi.Schemas) : TypeExpr → Prop
  | .scalar _ => True
  | .reference name =>
    OpenApi.isModelName schemas name = true ∨ name ∉ schemas.map Prod.fst
  | .array element => element.Inlined schemas
  | .map key value => key = .scalar .string ∧ value.Inlined schemas

namespace OpenApi

inductive HasReference : Schema → String → Prop
  | here {path note} : HasReference (.reference path note) path
  | inside {keywords child path} : child ∈ keywords.children → HasReference child path →
      HasReference (.object keywords) path

def Local (schema : Schema) : Prop :=
  ∀ path, HasReference schema path → ∃ name, path = schemaRefStart ++ name ∧ '/' ∉ name.toList

theorem local_reference_iff (path : String) (note : Option String) :
    Local (.reference path note) ↔ ∃ name, path = schemaRefStart ++ name ∧ '/' ∉ name.toList := by
  constructor
  · exact fun isLocal => isLocal path .here
  · rintro named _ ⟨⟩
    exact named

theorem local_object_iff (keywords : Keywords Schema) :
    Local (.object keywords) ↔ ∀ child ∈ keywords.children, Local child := by
  constructor
  · exact fun isLocal child isChild path has => isLocal path (.inside isChild has)
  · rintro children path ⟨⟩
    next child isChild has => exact children child isChild path has

theorem local_of_source {schemas : Schemas} (named : ∀ pair ∈ schemas, Local pair.2)
    {schema inner : Schema} {layer : Layer} (isLocal : Local schema)
    (source : source? schemas schema = some (layer, inner)) : Local inner := by
  have below := below_of_source source
  cases below with
  | child isChild => exact (local_object_iff _).mp isLocal inner isChild
  | target found => exact named _ (mem_of_lookup found)

theorem inlined_built (schemas : Schemas) : Built (TypeExpr.Inlined schemas) where
  scalar _ _ := trivial
  array _ inner := inner
  map _ inner := ⟨rfl, inner⟩

theorem inlined_reference {schemas : Schemas} {name : String} (noSlash : '/' ∉ name.toList)
    (noAlias : aliasTarget? schemas (schemaRefStart ++ name) = none) :
    (TypeExpr.reference name).Inlined schemas := by
  have begins : (dropStart? schemaRefStart (schemaRefStart ++ name)).isSome = true :=
    (dropStart?_isSome_iff ..).mpr ⟨name, rfl⟩
  rw [aliasTarget?, refName_append noSlash rfl, begins, Bool.true_and] at noAlias
  split at noAlias
  next =>
      refine .inr ?_
      intro isName
      obtain ⟨pair, isPair, rfl⟩ := List.mem_map.mp isName
      simpa using List.lookup_eq_none_iff.mp noAlias pair isPair
  next isModel => exact .inl (by simpa using isModel)

theorem typing_inlined {schemas : Schemas} (named : ∀ pair ∈ schemas, Local pair.2)
    (levels : Nat) {schema : Schema} (isLocal : Local schema) :
    (typing schemas levels schema).type.Inlined schemas := by
  -- On the levels that are left: references may lead anywhere, also back to the schema itself.
  induction levels generalizing schema with
  | zero => trivial
  | succ levels ih =>
      rw [typing_succ]
      refine (inlined_built schemas).step ?_ ?_
      · rintro path note rfl noAlias
        obtain ⟨name, rfl, noSlash⟩ := (local_reference_iff path note).mp isLocal
        rw [refName_append noSlash rfl]
        exact inlined_reference noSlash noAlias
      · exact fun layer inner source => ih (local_of_source named isLocal source)

/-- A schema is followed through these layers, and no further: either what it leads to takes its
type from no other, or no levels are left. -/
structure FollowedTo (schemas : Schemas) (levels : Nat) (schema : Schema) (layers : List Layer)
    (deep : Schema) : Prop where
  descends : Descends schemas schema layers deep
  within : layers.length ≤ levels
  stops : source? schemas deep = none ∨ layers.length = levels

theorem exists_followedTo (schemas : Schemas) (levels : Nat) (schema : Schema) :
    ∃ layers deep, FollowedTo schemas levels schema layers deep := by
  induction levels generalizing schema with
  | zero => exact ⟨[], schema, .here, Nat.le_refl 0, .inr rfl⟩
  | succ levels ih =>
      cases source : source? schemas schema with
      | none => exact ⟨[], schema, .here, Nat.zero_le _, .inl source⟩
      | some pair =>
          obtain ⟨layer, inner⟩ := pair
          obtain ⟨layers, deep, followed⟩ := ih inner
          exact ⟨layer :: layers, deep, .down source followed.descends,
            Nat.succ_le_succ followed.within, followed.stops.imp_right (congrArg (· + 1))⟩

theorem FollowedTo.typing_eq {schemas : Schemas} {levels : Nat} {schema deep : Schema}
    {layers : List Layer} (followed : FollowedTo schemas levels schema layers deep) :
    typing schemas levels schema =
      Layer.through layers (typing schemas (levels - layers.length) deep) := by
  have whole := (stepwise_typing schemas 0).descends followed.descends (levels - layers.length)
  rwa [Nat.sub_add_cancel followed.within] at whole

/-- Where all references are to named schemas, the type of a schema refers to models and to what is
missing, but to no alias, and its maps are keyed by texts. It is found after a bounded number of
levels, whatever refers to what. -/
theorem aliases_inlined {schemas : Schemas} {schema : Schema}
    (named : ∀ pair ∈ schemas, Local pair.2) (isLocal : Local schema) :
    (typeOf schemas schema).type.Inlined schemas ∧
    ∃ layers deep, FollowedTo schemas (maxAliasDepth + 1) schema layers deep ∧
      typeOf schemas schema =
        Layer.through layers (typing schemas (maxAliasDepth + 1 - layers.length) deep) := by
  obtain ⟨layers, deep, followed⟩ := exists_followedTo schemas (maxAliasDepth + 1) schema
  exact ⟨typing_inlined named _ isLocal, layers, deep, followed, followed.typing_eq⟩

def hutch : Schemas :=
  let refer (name : String) : Schema := .reference (schemaRefStart ++ name) none
  let list (items : Schema) : Schema :=
    .object { Keywords.ofWord "array" with items := some items }
  let table (values : Schema) : Schema :=
    .object { Keywords.ofWord "object" with additionalProperties := some values }
  let untyped : Keywords Schema := { Keywords.ofWord "" with type := none }
  [("Flock", list (refer "Herd")),
    ("Herd", .object { untyped with allOf := [refer "Left"] }),
    ("Left", refer "Pets"),
    ("Loop", table (refer "Loop")),
    ("Pet", .object { untyped with properties := [("name", .object (.ofWord "string"))] }),
    ("Pets", list (refer "Pet")),
    ("Right", .object { untyped with anyOf := [refer "Pets", .object (.ofWord "null")] }),
    ("Strays", table (refer "Stray"))]

theorem hutch_inlined :
    (∀ pair ∈ hutch, Local pair.2) ∧
    (∀ pair ∈ hutch, (typeOf hutch pair.2).type.Inlined hutch ∧
      ∃ layers deep, FollowedTo hutch (maxAliasDepth + 1) pair.2 layers deep ∧
        typeOf hutch pair.2 =
          Layer.through layers (typing hutch (maxAliasDepth + 1 - layers.length) deep)) ∧
    hutch.map (fun pair => (pair.1, (typeOf hutch pair.2).type)) =
      [("Flock", .array (.array (.reference "Pet"))), ("Herd", .array (.reference "Pet")),
        ("Left", .array (.reference "Pet")),
        ("Loop", (TypeExpr.map (.scalar .string))^[9] (.scalar .any)), ("Pet", .scalar .any),
        ("Pets", .array (.reference "Pet")), ("Right", .array (.reference "Pet")),
        ("Strays", .map (.scalar .string) (.reference "Stray"))] := by
  have named : ∀ pair ∈ hutch, Local pair.2 := by
    have refers {name : String} (noSlash : '/' ∉ name.toList) :
        Local (.reference (schemaRefStart ++ name) none) :=
      (local_reference_iff ..).mpr ⟨name, rfl, noSlash⟩
    simp [hutch, local_object_iff, Keywords.children, Keywords.ofWord, refers]
  exact ⟨named, fun pair isPair => aliases_inlined named (named pair isPair), by decide +kernel⟩

end OpenApi

end ApiContracts
