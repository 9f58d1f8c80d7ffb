import ApiContracts.Proofs.Closure.Walk
import Mathlib.Data.List.MinMax

/-!
Whether a closure says truly what it has gathered. It records the name that a reference derives,
while a DTO has the name that its model derives. The two agree, after all calls and whatever came
of them, just if no model is named like a DTO.
-/

namespace ApiContracts

namespace Closure

inductive Call where
  | expand (holder : String) (root : TypeExpr)
  | box

/-- What a call leaves of a closure, also if it ends at a reference without a model. -/
def call (models : List Model) (closure : Closure) : Call → Closure
  | .expand holder root => (expand models closure holder root).1
  | .box => closure.boxRecursive

def after (models : List Model) (calls : List Call) : Closure := calls.foldl (call models) empty

structure Faithful (closure : Closure) : Prop where
  contains_iff : ∀ name, closure.contains name = true ↔ ∃ dto ∈ closure.dtos, dto.name = name
  distinct : (closure.dtos.map (·.name)).Nodup

theorem Gathered.call {models : List Model} {findings : List Finding} {closure : Closure}
    (gathered : Gathered models findings closure) (call : Call) :
    ∃ findings, Gathered models findings (closure.call models call) := by
  cases call with
  | expand holder root =>
      obtain ⟨added, walked⟩ :=
        follow_walked (root.references.map fun name => (name, holder)) gathered
      exact ⟨findings ++ added, walked.gathered⟩
  | box => exact ⟨findings, gathered.boxRecursive⟩

theorem after_gathered (models : List Model) (calls : List Call) :
    ∃ findings, Gathered models findings (after models calls) := by
  induction calls using List.reverseRecOn with
  | nil => exact ⟨[], gathered_empty models⟩
  | append_singleton earlier call ih =>
      obtain ⟨findings, gathered⟩ := ih
      rw [after, List.foldl_append]
      exact gathered.call call

theorem Gathered.faithful {models : List Model} {findings : List Finding} {closure : Closure}
    (gathered : Gathered models findings closure) (plain : PlainNames models) :
    closure.Faithful := by
  have names := gathered.names_eq plain
  constructor
  · intro name
    rw [gathered.contains_iff, ← names, List.mem_map]
  · rw [names]
    exact gathered.distinct

theorem follow_contains {models : List Model} {closure : Closure} {findings : List Finding}
    {name : String} {model : Model} (gathered : Gathered models findings closure)
    (fresh : ¬closure.contains (Naming.dtoName name) = true)
    (found : lookupModel? models name = some model) (holder : String) (rest : List Reference) :
    (follow models closure ((name, holder) :: rest)).1.contains (Naming.dtoName name) = true := by
  have added := gathered.add fresh found
  rw [follow]
  split
  next there => exact absurd there fresh
  next =>
      split
      next unknown => simp [unknown] at found
      next other again =>
          obtain rfl := Option.some.inj (again.symm.trans found)
          obtain ⟨later, walked⟩ :=
            follow_walked (rest ++ other.references.map fun name => (name, other.name)) added
          apply added.contains_of_prefix walked.gathered
          rw [added.contains_iff]
          simp [Finding.dtoName]

theorem exists_longest_suffixed {models : List Model} (mixed : ¬PlainNames models) :
    ∃ model ∈ models, Naming.isDtoName model.name = true ∧
      ∀ other ∈ models, Naming.isDtoName other.name = true →
        other.name.length ≤ model.name.length := by
  have suffixed : models.filter (Naming.isDtoName ·.name) ≠ [] := by
    simpa [PlainNames, List.filter_eq_nil_iff] using mixed
  obtain ⟨model, longest⟩ := Option.ne_none_iff_exists'.mp
    (mt (List.argmax_eq_none (f := fun model : Model => model.name.length)).mp suffixed)
  have member := List.argmax_mem longest
  rw [List.mem_filter] at member
  refine ⟨model, member.1, member.2, ?_⟩
  intro other isModel suffixed
  have candidate : other ∈ models.filter (Naming.isDtoName ·.name) :=
    List.mem_filter.mpr ⟨isModel, suffixed⟩
  exact List.le_of_mem_argmax (f := fun model : Model => model.name.length) candidate longest

theorem suffixed_unfaithful {models : List Model} {stem : String}
    (suffixed : Naming.isDtoName stem = true) (there : ∃ model ∈ models, model.name = stem)
    (unnamed : ∀ model ∈ models, model.name ≠ stem ++ "Dto") (holder : String) :
    ¬(after models [.expand holder (.reference (stem ++ "Dto"))]).Faithful := by
  have nonempty := Naming.ne_empty_of_isDtoName suffixed
  have doubled : Naming.isDtoName (stem ++ "Dto") = true :=
    (Naming.isDtoName_iff _).mpr ⟨stem, nonempty, rfl⟩
  obtain ⟨model, found⟩ : ∃ model, lookupModel? models (stem ++ "Dto") = some model := by
    rw [lookupModel?_suffixed nonempty unnamed, ← Option.isSome_iff_exists, List.find?_isSome]
    simpa using there
  have recorded := follow_contains (gathered_empty models) (by simp [empty, contains]) found
    holder []
  rw [Naming.dtoName_of_isDtoName doubled] at recorded
  intro faithful
  obtain ⟨dto, isDto, named⟩ := (faithful.contains_iff _).mp recorded
  obtain ⟨findings, gathered⟩ :=
    after_gathered models [.expand holder (.reference (stem ++ "Dto"))]
  have derived : dto.name ∈ findings.map fun finding => Naming.dtoName finding.2.name := by
    rw [← gathered.dto_names]
    exact List.mem_map_of_mem isDto
  obtain ⟨finding, isFinding, same⟩ := List.mem_map.mp derived
  have isModel := (standsFor_of_lookup (gathered.found finding isFinding)).1
  -- Only a model named `stem ++ "Dto"`, or one named `stem` without the suffix, derives this name.
  rw [named, ← Naming.dtoName_of_isDtoName doubled] at same
  rcases Naming.eq_or_suffixed_of_dtoName_eq same with
    equal | ⟨notDoubled, _, _⟩ | ⟨isPlain, _, split⟩
  · exact unnamed finding.2 isModel equal
  · rw [doubled] at notDoubled
    contradiction
  · rw [← Naming.append_dto_inj split, suffixed] at isPlain
    contradiction

/-- A closure is faithful after all sequences of calls just if no model is named like a DTO. -/
theorem faithful_iff_plain (models : List Model) :
    (∀ calls, (after models calls).Faithful) ↔ PlainNames models := by
  constructor
  · intro faithful
    by_contra mixed
    obtain ⟨model, isModel, suffixed, longest⟩ := exists_longest_suffixed mixed
    apply suffixed_unfaithful suffixed ⟨model, isModel, rfl⟩ ?_ "" (faithful _)
    intro other isOther named
    have doubled : Naming.isDtoName other.name = true :=
      (Naming.isDtoName_iff _).mpr
        ⟨model.name, Naming.ne_empty_of_isDtoName suffixed, named.symm⟩
    have bound := longest other isOther doubled
    rw [named, String.length_append] at bound
    have positive : 0 < "Dto".length := by decide
    omega
  · intro plain calls
    obtain ⟨findings, gathered⟩ := after_gathered models calls
    exact gathered.faithful plain

def petDto : Model := ⟨"PetDto", none, [], []⟩

def petDtoCalls : List Call :=
  [.expand "getPet" (.reference "PetDtoDto"), .expand "addPet" (.reference "PetDto")]

theorem petDto_gathered_twice :
    DistinctNames [petDto] ∧
      (after [petDto] petDtoCalls).contains "PetDtoDto" = true ∧
      (after [petDto] petDtoCalls).dtos.map (·.name) = ["PetDto", "PetDto"] ∧
      ¬(after [petDto] petDtoCalls).Faithful := by
  have names : (after [petDto] petDtoCalls).dtos.map (·.name) = ["PetDto", "PetDto"] := by
    decide +kernel
  refine ⟨by decide, by decide +kernel, names, ?_⟩
  intro faithful
  have distinct := faithful.distinct
  rw [names] at distinct
  simp at distinct

end Closure

end ApiContracts
