import ApiContracts.Proofs.OpenApi.Keyed

/-!
How the parts of a schema are merged. A reference stands for its target, and an object comes after
its own parts. So the objects in the tree of a schema have an order; each of them declares
properties, and the last declaration of a name replaces all earlier ones.
-/

namespace ApiContracts.OpenApi

/-- A schema occurs in the tree of another, so many levels below it. The parts of an object and the
target of a reference are one level down. -/
inductive Part (schemas : Schemas) : Schema → Nat → Schema → Prop
  | root {schema} : Part schemas schema 0 schema
  | inside {keywords part depth schema} : part ∈ keywords.allOf →
      Part schemas part depth schema → Part schemas (.object keywords) (depth + 1) schema
  | target {path description target depth schema} : schemas.lookup (refName path) = some target →
      Part schemas target depth schema → Part schemas (.reference path description) (depth + 1) schema

def withinLevels (schemas : Schemas) : (levels : Nat) → Schema → Bool
  | 0, _ => false
  | _ + 1, .always _ => true
  | levels + 1, .reference path _ =>
    match schemas.lookup (refName path) with
    | some target => withinLevels schemas levels target
    | none => true
  | levels + 1, .object keywords => keywords.allOf.all (withinLevels schemas levels)

theorem withinLevels_iff (schemas : Schemas) (levels : Nat) (schema : Schema) :
    withinLevels schemas levels schema = true ↔
      ∀ depth part, Part schemas schema depth part → depth < levels := by
  induction levels generalizing schema with
  | zero =>
      simp only [withinLevels, Bool.false_eq_true, Nat.not_lt_zero, false_iff]
      exact fun below => below 0 schema .root
  | succ levels ih =>
      cases schema with
      | always value =>
          simp only [withinLevels, true_iff]
          rintro depth part ⟨⟩
          omega
      | reference path description =>
          rw [withinLevels]
          split
          next target found =>
              rw [ih]
              constructor
              · rintro within depth part (_ | _ | ⟨again, below⟩)
                · omega
                · obtain rfl := Option.some.inj (found.symm.trans again)
                  exact Nat.succ_lt_succ (within _ _ below)
              · intro within depth part below
                exact Nat.lt_of_succ_lt_succ (within _ _ (.target found below))
          next missing =>
              simp only [true_iff]
              rintro depth part (_ | _ | ⟨found, _⟩)
              · omega
              · simp [missing] at found
      | object keywords =>
          simp only [withinLevels, List.all_eq_true, ih]
          constructor
          · rintro within depth part (_ | ⟨isPart, below⟩)
            · omega
            · exact Nat.succ_lt_succ (within _ isPart _ _ below)
          · intro within part isPart depth schema below
            exact Nat.lt_of_succ_lt_succ (within _ _ (.inside isPart below))

/-- The objects in the tree of a schema, down to a number of levels, in the order in which they are
merged. -/
def mergeOrder (schemas : Schemas) : (levels : Nat) → Schema → List (Keywords Schema)
  | 0, _ => []
  | _ + 1, .always _ => []
  | levels + 1, .reference path _ =>
    match schemas.lookup (refName path) with
    | some target => mergeOrder schemas levels target
    | none => []
  | levels + 1, .object keywords => keywords.allOf.flatMap (mergeOrder schemas levels) ++ [keywords]

theorem mem_mergeOrder_iff (schemas : Schemas) (levels : Nat) (schema : Schema)
    (keywords : Keywords Schema) :
    keywords ∈ mergeOrder schemas levels schema ↔
      ∃ depth < levels, Part schemas schema depth (.object keywords) := by
  induction levels generalizing schema with
  | zero => simp [mergeOrder]
  | succ levels ih =>
      cases schema with
      | always value =>
          simp only [mergeOrder, List.not_mem_nil, false_iff]
          rintro ⟨depth, _, ⟨⟩⟩
      | reference path description =>
          rw [mergeOrder]
          split
          next target found =>
              rw [ih]
              constructor
              · rintro ⟨depth, below, part⟩
                exact ⟨depth + 1, Nat.succ_lt_succ below, .target found part⟩
              · rintro ⟨_, below, _ | _ | ⟨again, part⟩⟩
                obtain rfl := Option.some.inj (found.symm.trans again)
                exact ⟨_, Nat.lt_of_succ_lt_succ below, part⟩
          next missing =>
              simp only [List.not_mem_nil, false_iff]
              rintro ⟨_, _, _ | _ | ⟨found, _⟩⟩
              simp [missing] at found
      | object own =>
          rw [mergeOrder, List.mem_append, List.mem_flatMap, List.mem_singleton]
          constructor
          · rintro (⟨part, isPart, inPart⟩ | rfl)
            · obtain ⟨depth, below, inside⟩ := (ih part).mp inPart
              exact ⟨depth + 1, Nat.succ_lt_succ below, .inside isPart inside⟩
            · exact ⟨0, Nat.succ_pos levels, .root⟩
          · rintro ⟨_, below, _ | ⟨isPart, inside⟩⟩
            · exact .inr rfl
            · exact .inl ⟨_, isPart, (ih _).mpr ⟨_, Nat.lt_of_succ_lt_succ below, inside⟩⟩

def Keywords.declared (schemas : Schemas) (keywords : Keywords Schema) : List Property :=
  keywords.properties.map fun (name, inner) =>
    propertyOf schemas name inner (keywords.required.contains name)

def Keywords.names {σ : Type} (keywords : Keywords σ) : List String :=
  keywords.properties.map Prod.fst

@[simp] theorem propertyOf_name (schemas : Schemas) (name : String) (schema : Schema)
    (required : Bool) : (propertyOf schemas name schema required).name = name := by
  cases schema <;> rfl

@[simp] theorem propertyOf_required (schemas : Schemas) (name : String) (schema : Schema)
    (required : Bool) : (propertyOf schemas name schema required).required = required := by
  cases schema <;> rfl

theorem Keywords.declared_names (schemas : Schemas) (keywords : Keywords Schema) :
    (keywords.declared schemas).map (·.name) = keywords.names := by
  simp [declared, names, Function.comp_def]

theorem Keywords.required_iff {schemas : Schemas} {keywords : Keywords Schema}
    {property : Property} (declares : property ∈ keywords.declared schemas) :
    property.required = true ↔ property.name ∈ keywords.required := by
  obtain ⟨⟨name, inner⟩, _, rfl⟩ := List.mem_map.mp declares
  simp

def putAll (added found : List Property) : List Property :=
  added.foldl (fun found property => putProperty property found) found

@[simp] theorem putAll_nil (found : List Property) : putAll [] found = found := rfl

theorem putAll_eq (added found : List Property) :
    putAll added found = putAllBy (·.name) added found := by
  simp only [putAll, putProperty_eq, putAllBy]

theorem putAll_append (first second found : List Property) :
    putAll (first ++ second) found = putAll second (putAll first found) :=
  List.foldl_append

theorem foldl_putAll {follow : Schema → List Property → List Property}
    {added : Schema → List Property} {parts : List Schema}
    (follows : ∀ part ∈ parts, ∀ found, follow part found = putAll (added part) found)
    (found : List Property) :
    parts.foldl (fun found part => follow part found) found =
      putAll (parts.flatMap added) found := by
  induction parts generalizing found with
  | nil => rfl
  | cons part rest ih =>
      obtain ⟨first, others⟩ := List.forall_mem_cons.mp follows
      rw [List.foldl_cons, ih others, first, List.flatMap_cons, putAll_append]

theorem collect_eq (schemas : Schemas) (budget : Nat) (schema : Schema) (found : List Property) :
    collect schemas budget schema found =
      putAll ((mergeOrder schemas budget schema).flatMap (·.declared schemas)) found := by
  induction budget generalizing schema found with
  | zero => rfl
  | succ budget ih =>
      cases schema with
      | always value => rfl
      | reference path description =>
          cases found' : schemas.lookup (refName path) with
          | none => simp [collect, mergeOrder, found']
          | some target => simpa [collect, mergeOrder, found'] using ih target found
      | object keywords =>
          rw [collect, mergeOrder, List.flatMap_append, List.flatMap_assoc, putAll_append,
            foldl_putAll fun part _ => ih part]
          simp [putAll, Keywords.declared, List.foldl_map]

def LastDeclares (order : List (Keywords Schema)) (name : String) (last : Keywords Schema) : Prop :=
  name ∈ last.names ∧
    ∃ before after, order = before ++ last :: after ∧ ∀ later ∈ after, name ∉ later.names

theorem exists_lastDeclares {order : List (Keywords Schema)} {name : String}
    (declared : ∃ keywords ∈ order, name ∈ keywords.names) :
    ∃ last, LastDeclares order name last := by
  induction order with
  | nil => simp at declared
  | cons first rest ih =>
      by_cases later : ∃ keywords ∈ rest, name ∈ keywords.names
      · obtain ⟨last, declares, before, after, split, unnamed⟩ := ih later
        exact ⟨last, declares, first :: before, after, by simp [split], unnamed⟩
      · have here : name ∈ first.names := by
          obtain ⟨keywords, member, declares⟩ := declared
          rcases List.mem_cons.mp member with rfl | inRest
          · exact declares
          · exact absurd ⟨keywords, inRest, declares⟩ later
        exact ⟨first, here, [], rest, rfl, by simpa using later⟩

theorem Keywords.mem_names_iff (schemas : Schemas) (keywords : Keywords Schema) (name : String) :
    name ∈ keywords.names ↔ ∃ property ∈ keywords.declared schemas, property.name = name := by
  rw [← keywords.declared_names schemas, List.mem_map]

theorem mem_collect_names_iff (schemas : Schemas) (levels : Nat) (schema : Schema)
    (name : String) :
    name ∈ (collect schemas levels schema []).map (·.name) ↔
      ∃ keywords ∈ mergeOrder schemas levels schema, name ∈ keywords.names := by
  rw [collect_eq, putAll_eq, mem_putAllBy_keys]
  simp only [Keywords.mem_names_iff schemas, List.mem_map, List.mem_flatMap, List.not_mem_nil,
    false_and, exists_false, or_false]
  constructor
  · rintro ⟨property, ⟨keywords, member, declares⟩, named⟩
    exact ⟨keywords, member, property, declares, named⟩
  · rintro ⟨keywords, member, property, declares, named⟩
    exact ⟨property, ⟨keywords, member, declares⟩, named⟩

theorem exists_last_of_mem_collect {schemas : Schemas} {levels : Nat} {schema : Schema}
    {property : Property} (member : property ∈ collect schemas levels schema []) :
    ∃ last, LastDeclares (mergeOrder schemas levels schema) property.name last ∧
      property ∈ last.declared schemas := by
  obtain ⟨last, declares, before, after, split, unnamed⟩ := exists_lastDeclares
    ((mem_collect_names_iff schemas levels schema property.name).mp (List.mem_map_of_mem member))
  refine ⟨last, ⟨declares, before, after, split, unnamed⟩, ?_⟩
  rw [collect_eq, putAll_eq, split, List.flatMap_append, List.flatMap_cons, putAllBy_append,
    putAllBy_append] at member
  have inherited : ((putAllBy (·.name) (before.flatMap (·.declared schemas)) []).map
      (·.name)).Nodup := putAllBy_keys_nodup List.nodup_nil
  -- Objects behind the last one declare other names, and it replaces what those before declare.
  rcases last_of_mem_putAllBy (putAllBy_keys_nodup inherited) member with
    ⟨_, _, behind, _⟩ | ⟨put, _⟩
  · have inAfter : property ∈ after.flatMap (·.declared schemas) := by simp [behind]
    obtain ⟨later, isLater, laterDeclares⟩ := List.mem_flatMap.mp inAfter
    exact absurd ((later.mem_names_iff schemas _).mpr ⟨property, laterDeclares, rfl⟩)
      (unnamed later isLater)
  · rcases last_of_mem_putAllBy inherited put with ⟨_, _, own, _⟩ | ⟨_, others⟩
    · simp [own]
    · obtain ⟨other, isOwn, named⟩ := (last.mem_names_iff schemas _).mp declares
      exact absurd named (others other isOwn)

end ApiContracts.OpenApi
