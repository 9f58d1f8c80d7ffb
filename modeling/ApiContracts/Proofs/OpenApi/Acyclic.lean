import ApiContracts.Proofs.OpenApi.Descent
import ApiContracts.Proofs.OpenApi.Merging
import Mathlib.Logic.Relation
import Mathlib.Order.WellFoundedSet

/-!
Named schemas whose references never lead back to where they started. Whatever is followed there,
from schemas to those inside them and from references to their targets, comes to an end.
-/

namespace ApiContracts.OpenApi

def Keywords.children {σ : Type} (keywords : Keywords σ) : List σ :=
  keywords.properties.map Prod.snd ++ keywords.allOf ++ keywords.anyOf ++ keywords.oneOf ++
    keywords.items.toList ++ keywords.additionalProperties.toList

inductive Cites : Schema → String → Prop
  | reference {path note} : Cites (.reference path note) (refName path)
  | inside {keywords child name} : child ∈ keywords.children → Cites child name →
      Cites (.object keywords) name

def RefersTo (schemas : Schemas) (name other : String) : Prop :=
  ∃ schema, schemas.lookup name = some schema ∧ Cites schema other

def Acyclic (schemas : Schemas) : Prop :=
  ∀ name, ¬Relation.TransGen (RefersTo schemas) name name

theorem sizeOf_child {keywords : Keywords Schema} {child : Schema}
    (isChild : child ∈ keywords.children) : sizeOf child < sizeOf (Schema.object keywords) := by
  obtain ⟨type, format, description, pattern, constraints, enumeration, required, properties,
    allOf, anyOf, oneOf, items, additional⟩ := keywords
  simp only [Keywords.children, List.mem_append, List.mem_map, Option.mem_toList] at isChild
  simp only [Schema.object.sizeOf_spec, Keywords.mk.sizeOf_spec]
  rcases isChild with ((((⟨⟨name, inner⟩, isProperty, rfl⟩ | isPart) | isVariant) | isVariant) |
    isItems) | isMember
  · have bound := List.sizeOf_lt_of_mem isProperty
    simp only [Prod.mk.sizeOf_spec] at bound
    dsimp only
    omega
  · have bound := List.sizeOf_lt_of_mem isPart
    omega
  · have bound := List.sizeOf_lt_of_mem isVariant
    omega
  · have bound := List.sizeOf_lt_of_mem isVariant
    omega
  · rw [isItems, Option.some.sizeOf_spec]
    omega
  · rw [isMember, Option.some.sizeOf_spec]
    omega

inductive Below (schemas : Schemas) : Schema → Schema → Prop
  | child {keywords child} : child ∈ keywords.children → Below schemas child (.object keywords)
  | target {path note target} : schemas.lookup (refName path) = some target →
      Below schemas target (.reference path note)

theorem acc_of_targets {schemas : Schemas} (schema : Schema)
    (targets : ∀ name, Cites schema name → ∀ target, schemas.lookup name = some target →
      Acc (Below schemas) target) : Acc (Below schemas) schema := by
  -- By size: what lies inside is smaller, and targets are taken care of already.
  induction size : sizeOf schema using Nat.strong_induction_on generalizing schema with
  | h size' ih =>
      subst size
      refine ⟨schema, ?_⟩
      intro below isBelow
      cases isBelow with
      | target found => exact targets _ .reference below found
      | child isChild =>
          refine ih _ (sizeOf_child isChild) below ?_ rfl
          exact fun name cites => targets name (.inside isChild cites)

theorem RefersTo.defined {schemas : Schemas} {name other : String}
    (refers : RefersTo schemas name other) : name ∈ schemas.map Prod.fst := by
  obtain ⟨schema, found, _⟩ := refers
  exact List.mem_map_of_mem (mem_of_lookup found)

theorem Acyclic.induction {schemas : Schemas} (acyclic : Acyclic schemas) {P : String → Prop}
    (step : ∀ name, (∀ next, RefersTo schemas name next → P next) → P name) (name : String) :
    P name := by
  -- No cycles make this an order, and only finitely many names refer to anything.
  let before (next name : String) : Prop := Relation.TransGen (RefersTo schemas) name next
  have order : IsStrictOrder String before :=
    { irrefl := acyclic, trans := fun _ _ _ first second => second.trans first }
  have undefined {name : String} (missing : name ∉ schemas.map Prod.fst) : P name :=
    step name fun _ refers => absurd refers.defined missing
  have finite : {name | name ∈ schemas.map Prod.fst}.Finite := List.finite_toSet _
  by_cases isName : name ∈ schemas.map Prod.fst
  · refine (finite.wellFoundedOn (r := before)).induction isName ?_
    intro name _ ih
    refine step name ?_
    intro next refers
    by_cases isNext : next ∈ schemas.map Prod.fst
    · exact ih next isNext (.single refers)
    · exact undefined isNext
  · exact undefined isName

theorem Acyclic.acc {schemas : Schemas} (acyclic : Acyclic schemas) (schema : Schema) :
    Acc (Below schemas) schema := by
  refine acc_of_targets schema fun name _ => ?_
  refine acyclic.induction (P := fun name => ∀ target, schemas.lookup name = some target →
    Acc (Below schemas) target) ?_ name
  intro name ih target found
  refine acc_of_targets target ?_
  exact fun next cites => ih next ⟨target, found, cites⟩

theorem Keywords.membersSource?_mem {keywords : Keywords Schema} {inner : Schema}
    (source : keywords.membersSource? = some inner) : inner ∈ keywords.children := by
  rw [membersSource?] at source
  split at source
  · simp at source
  split at source
  · simp at source
  · simp [children, source]

theorem Keywords.wordSource?_mem {keywords : Keywords Schema} {layer : Layer} {inner : Schema}
    (source : keywords.wordSource? = some (layer, inner)) : inner ∈ keywords.children := by
  have framed {values : Option Schema} {kind : Layer}
      (found : values.map (kind, ·) = some (layer, inner)) : values = some inner := by
    obtain ⟨value, isValue, same⟩ := Option.map_eq_some_iff.mp found
    rw [isValue, (Prod.mk.inj same).2]
  rw [wordSource?] at source
  split at source
  · simp [children, framed source]
  · exact membersSource?_mem (framed source)
  · exact membersSource?_mem (framed source)
  · simp at source

theorem Keywords.source?_mem {keywords : Keywords Schema} {layer : Layer} {inner : Schema}
    (source : keywords.source? = some (layer, inner)) : inner ∈ keywords.children := by
  rw [source?] at source
  split at source
  next =>
      split at source
      next single alone =>
          obtain ⟨-, rfl⟩ := Prod.mk.inj (Option.some.inj source)
          have isVariant : single ∈ keywords.variants :=
            (List.mem_filter.mp (alone ▸ List.mem_singleton_self single)).1
          rw [variants] at isVariant
          split at isVariant <;> simp [children, isVariant]
      next => simp at source
  next =>
      split at source
      next single alone =>
          obtain ⟨-, rfl⟩ := Prod.mk.inj (Option.some.inj source)
          simp [children, alone]
      next => simp at source
      next => exact wordSource?_mem source

theorem below_of_source {schemas : Schemas} {schema inner : Schema} {layer : Layer}
    (source : source? schemas schema = some (layer, inner)) : Below schemas inner schema := by
  cases schema with
  | always value => simp [source?] at source
  | object keywords => exact .child (Keywords.source?_mem source)
  | reference path note =>
      obtain ⟨target, found, same⟩ := Option.map_eq_some_iff.mp source
      obtain ⟨-, rfl⟩ := Prod.mk.inj same
      rw [aliasTarget?] at found
      split at found
      · exact .target found
      · simp at found

theorem exists_ends {schemas : Schemas} {schema : Schema} (acc : Acc (Below schemas) schema) :
    ∃ levels, Ends schemas levels schema := by
  induction acc with
  | intro schema _ ih =>
      cases source : source? schemas schema with
      | none => exact ⟨1, ends_iff.mpr (by simp [source])⟩
      | some pair =>
          obtain ⟨layer, inner⟩ := pair
          obtain ⟨levels, ends⟩ := ih inner (below_of_source source)
          refine ⟨levels + 1, ends_iff.mpr ?_⟩
          intro other another again
          obtain ⟨rfl, rfl⟩ := Prod.mk.inj (Option.some.inj (source.symm.trans again))
          exact ends

theorem withinLevels_mono {schemas : Schemas} {levels more : Nat} {schema : Schema}
    (within : withinLevels schemas levels schema = true) (le : levels ≤ more) :
    withinLevels schemas more schema = true := by
  rw [withinLevels_iff] at within ⊢
  exact fun depth part inside => Nat.lt_of_lt_of_le (within depth part inside) le

theorem exists_withinLevels_all {schemas : Schemas} {parts : List Schema}
    (each : ∀ part ∈ parts, ∃ levels, withinLevels schemas levels part = true) :
    ∃ levels, ∀ part ∈ parts, withinLevels schemas levels part = true := by
  induction parts with
  | nil => exact ⟨0, by simp⟩
  | cons first rest ih =>
      obtain ⟨here, others⟩ := List.forall_mem_cons.mp each
      obtain ⟨levels, within⟩ := here
      obtain ⟨more, later⟩ := ih others
      refine ⟨max levels more, List.forall_mem_cons.mpr ⟨?_, ?_⟩⟩
      · exact withinLevels_mono within (Nat.le_max_left ..)
      · exact fun part isPart => withinLevels_mono (later part isPart) (Nat.le_max_right ..)

theorem exists_withinLevels {schemas : Schemas} {schema : Schema}
    (acc : Acc (Below schemas) schema) :
    ∃ levels, withinLevels schemas levels schema = true := by
  induction acc with
  | intro schema _ ih =>
      cases schema with
      | always value => exact ⟨1, rfl⟩
      | reference path note =>
          cases found : schemas.lookup (refName path) with
          | none => exact ⟨1, by simp [withinLevels, found]⟩
          | some target =>
              obtain ⟨levels, within⟩ := ih target (.target found)
              exact ⟨levels + 1, by simpa [withinLevels, found] using within⟩
      | object keywords =>
          have parts : ∀ part ∈ keywords.allOf, ∃ levels, withinLevels schemas levels part = true :=
            fun part isPart => ih part (.child (by simp [Keywords.children, isPart]))
          obtain ⟨levels, within⟩ := exists_withinLevels_all parts
          exact ⟨levels + 1, by simpa [withinLevels] using within⟩

end ApiContracts.OpenApi
