import ApiContracts.Proofs.Closure.Order
import ApiContracts.Proofs.Plan.SelfContained

/-!
A plan with a DTO for each model begins with the plan of what the operations reach. The models that
come later add no way from a DTO of the earlier ones back to itself: what those refer to was
gathered before, and no later DTO has a name that was. So the same properties are boxed.
-/

namespace ApiContracts

namespace Closure

theorem expandAll_append {models : List Model} {closure large : Closure}
    {front back : List (String × TypeExpr)}
    (finished : expandAll models closure (front ++ back) = (large, none)) :
    ∃ small, expandAll models closure front = (small, none) ∧
      expandAll models small back = (large, none) := by
  fun_induction expandAll models closure front with
  | case1 closure => exact ⟨closure, rfl, finished⟩
  | case2 closure holder root rest after missing stopped =>
      rw [List.cons_append, expandAll, stopped] at finished
      simp at finished
  | case3 closure holder root rest after succeeded ih =>
      rw [List.cons_append, expandAll, succeeded] at finished
      exact ih finished

theorem Gathered.dto_of_contains {models : List Model} {findings : List Finding}
    {closure : Closure} {model : Model} (gathered : Gathered models findings closure)
    (isModel : model ∈ models) (there : closure.contains (Naming.dtoName model.name) = true) :
    ∃ dto ∈ closure.dtos, dto.name = Naming.dtoName model.name := by
  obtain ⟨finding, isFinding, same⟩ := List.mem_map.mp ((gathered.contains_iff _).mp there)
  have derived : Naming.dtoName finding.2.name = Naming.dtoName model.name := by
    obtain ⟨isFound, named | ⟨unnamed, nonempty, named⟩⟩ :=
      standsFor_of_lookup (gathered.found finding isFinding)
    · rw [named]
      exact same
    · -- The name that was followed carries the suffix, so it is the DTO name itself. The model
      -- is not named like that, hence it has the name without the suffix.
      have suffixed : Naming.isDtoName finding.1 = true :=
        (Naming.isDtoName_iff _).mpr ⟨finding.2.name, nonempty, named⟩
      rcases Naming.eq_or_suffixed_of_dtoName_eq same with
        equal | ⟨_, _, split⟩ | ⟨notSuffixed, _, _⟩
      · exact absurd equal.symm (unnamed model isModel)
      · rw [Naming.append_dto_inj (named.trans split)]
      · rw [suffixed] at notSuffixed
        contradiction
  obtain ⟨dto, isDto, unboxed⟩ := gathered.exists_dto isFinding
  exact ⟨dto, isDto, (congrArg Dto.name unboxed).trans derived⟩

theorem Gathered.contains_of_holds {models : List Model} {findings : List Finding}
    {closure : Closure} {owner target : String} (gathered : Gathered models findings closure)
    (closed : ∀ finding ∈ findings, ∀ name, finding.2.Mentions name →
      closure.contains (Naming.dtoName name) = true)
    (held : Holds closure.dtos owner target) : closure.contains target = true := by
  obtain ⟨dto, isDto, _, property, isProperty, typed⟩ := held
  obtain ⟨finding, isFinding, source, isSource, same⟩ := gathered.property_type isDto isProperty
  rw [typed] at same
  cases reference : source.type with
  | reference name =>
      rw [reference, TypeExpr.toDto] at same
      rw [← TypeExpr.reference.inj same]
      apply closed finding isFinding
      exact ⟨source, isSource, reference ▸ .here⟩
  | scalar s => simp [reference, TypeExpr.toDto] at same
  | array element => simp [reference, TypeExpr.toDto] at same
  | map key value => simp [reference, TypeExpr.toDto] at same

/-- A closure that goes on from one that holds all that it refers to. -/
structure Continues (models : List Model) (small large : Closure) : Prop where
  start : ∃ findings, Gathered models findings small ∧
    ∀ finding ∈ findings, ∀ name, finding.2.Mentions name →
      small.contains (Naming.dtoName name) = true
  finish : ∃ findings, Gathered models findings large
  dtos : small.dtos <+: large.dtos
  distinct : (large.dtos.map (·.name)).Nodup

namespace Continues

variable {models : List Model} {small large : Closure}

theorem distinct_start (continues : Continues models small large) :
    (small.dtos.map (·.name)).Nodup :=
  continues.distinct.sublist (continues.dtos.sublist.map _)

theorem holds_mono (continues : Continues models small large) {owner target : String}
    (held : Holds small.dtos owner target) : Holds large.dtos owner target := by
  obtain ⟨dto, isDto, rest⟩ := held
  exact ⟨dto, continues.dtos.subset isDto, rest⟩

theorem holds_start (continues : Continues models small large) {owner target : String}
    (there : small.contains owner = true) (held : Holds large.dtos owner target) :
    Holds small.dtos owner target := by
  obtain ⟨dto, isDto, rfl, property⟩ := held
  refine ⟨dto, ?_, rfl, property⟩
  obtain ⟨early, gathered, _⟩ := continues.start
  obtain ⟨all, complete⟩ := continues.finish
  obtain ⟨finding, isFinding, same⟩ := complete.origin isDto
  have isModel := (standsFor_of_lookup (complete.found finding isFinding)).1
  have named : Naming.dtoName finding.2.name = dto.name := congrArg Dto.name same
  rw [← named] at there
  obtain ⟨first, isFirst, firstNamed⟩ := gathered.dto_of_contains isModel there
  -- The DTOs of the later closure have names of their own, so the two are one.
  obtain rfl : first = dto := List.inj_on_of_nodup_map continues.distinct
    (continues.dtos.subset isFirst) isDto (firstNamed.trans named)
  exact isFirst

theorem reaches_iff_start (continues : Continues models small large) {start goal : String}
    (there : small.contains start = true) :
    Relation.ReflTransGen (Holds large.dtos) start goal ↔
      Relation.ReflTransGen (Holds small.dtos) start goal := by
  constructor
  · intro path
    induction path using Relation.ReflTransGen.head_induction_on with
    | refl => exact .refl
    | head step _ ih =>
        have early := continues.holds_start there step
        obtain ⟨findings, gathered, closed⟩ := continues.start
        exact .head early (ih (gathered.contains_of_holds closed early))
  · exact Relation.ReflTransGen.mono (fun _ _ => continues.holds_mono) _ _

theorem boxProperty_eq (continues : Continues models small large) {dto : Dto}
    (isDto : dto ∈ small.dtos) {property : DtoProperty} (isProperty : property ∈ dto.properties) :
    boxProperty (edges large.dtos) dto.name property =
      boxProperty (edges small.dtos) dto.name property := by
  rw [boxProperty, boxProperty]
  cases direct : property.directTarget? with
  | none => rfl
  | some target =>
      have typed := (property.directTarget?_eq_some_iff target).mp direct
      obtain ⟨findings, gathered, closed⟩ := continues.start
      have there : small.contains target = true :=
        gathered.contains_of_holds closed ⟨dto, isDto, rfl, property, isProperty, typed⟩
      have same : reaches (edges large.dtos) target dto.name =
          reaches (edges small.dtos) target dto.name := by
        rw [Bool.eq_iff_iff, reaches_iff, reaches_iff, hasEdge_iff_holds continues.distinct,
          hasEdge_iff_holds continues.distinct_start]
        exact continues.reaches_iff_start there
      simp only [same]

theorem boxRecursive_begins (continues : Continues models small large) :
    small.boxRecursive.dtos <+: large.boxRecursive.dtos := by
  have early : small.boxRecursive.dtos = small.dtos.map fun dto =>
      { dto with properties := dto.properties.map (boxProperty (edges large.dtos) dto.name) } := by
    apply List.map_congr_left
    intro dto isDto
    have properties : dto.properties.map (boxProperty (edges small.dtos) dto.name) =
        dto.properties.map (boxProperty (edges large.dtos) dto.name) :=
      List.map_congr_left fun property isProperty =>
        (continues.boxProperty_eq isDto isProperty).symm
    rw [properties]
  rw [early]
  exact continues.dtos.map _

end Continues

theorem expandAll_continues {models : List Model} {small large : Closure}
    {front back : List (String × TypeExpr)}
    (first : expandAll models .empty front = (small, none))
    (second : expandAll models small back = (large, none))
    (distinct : (large.dtos.map (·.name)).Nodup) : Continues models small large := by
  have nothing : Closure.empty.Plain := by simp [Plain, empty]
  have plain := expandAll_plain models front nothing
  rw [first] at plain
  have plainAll := expandAll_plain models back plain
  rw [second] at plainAll
  obtain ⟨early, walked⟩ := expandAll_walked front (gathered_empty models)
  rw [first] at walked
  obtain ⟨late, rewalked⟩ := expandAll_walked back walked.gathered
  rw [second] at rewalked
  refine ⟨⟨early, walked.gathered, walked.closed rfl⟩, ⟨_, rewalked.gathered⟩, ?_, distinct⟩
  rw [← plain.unboxed_dtos, ← plainAll.unboxed_dtos, walked.gathered.dtos_eq,
    rewalked.gathered.dtos_eq]
  exact (List.prefix_append _ _).map _

end Closure

open Closure

theorem validatorsOf_begins (enabled : Bool) {small large : List Dto} (begins : small <+: large) :
    validatorsOf enabled small <+: validatorsOf enabled large := by
  cases enabled with
  | true => exact begins.filterMap _
  | false => exact List.prefix_refl _

theorem DistinctStems.of_begins {small large : List String} (distinct : DistinctStems large)
    (begins : small <+: large) : DistinctStems small :=
  distinct.sublist (begins.sublist.map _)

namespace Document

theorem closure_begins {document : Document} {large : Closure}
    (built : document.closure true = .ok large) (distinct : (large.dtos.map (·.name)).Nodup) :
    ∃ small, document.closure false = .ok small ∧ small.dtos <+: large.dtos := by
  have allRoots : document.roots true = document.roots false ++
      document.models.map fun model => (model.name, .reference model.name) := by
    simp [roots]
  rw [Document.closure] at built
  split at built
  next gathered finished =>
      obtain rfl := Except.ok.inj built
      rw [boxRecursive_names] at distinct
      rw [allRoots] at finished
      obtain ⟨reached, first, second⟩ := expandAll_append finished
      refine ⟨reached.boxRecursive, ?_, ?_⟩
      · rw [Document.closure, first]
      · exact (expandAll_continues first second distinct).boxRecursive_begins
  next => simp at built

/-- What can be planned with all models can be planned without those that no operation reaches. The
requests and handlers are the same, and the DTOs, boxed alike, and the validators are the first
ones of the larger plan. -/
theorem plan_begins {document : Document} {validators : Bool} {plan : Plan}
    (planned : document.plan ⟨validators, true⟩ = .ok plan) :
    ∃ reached, document.plan ⟨validators, false⟩ = .ok reached ∧
      reached.requests = plan.requests ∧ reached.handlers = plan.handlers ∧
      reached.dtos <+: plan.dtos ∧ reached.validators <+: plan.validators := by
  obtain ⟨large, plannable, rfl⟩ := (plan_eq_ok_iff document _ plan).mp planned
  obtain ⟨small, built, begins⟩ := closure_begins plannable.built plannable.names_nodup
  have validated := validatorsOf_begins validators begins
  refine ⟨document.planOf ⟨validators, false⟩ small, ?_, rfl, rfl, begins, validated⟩
  rw [plan_eq_ok_iff]
  refine ⟨small, ?_, rfl⟩
  exact
    { requestNames := plannable.requestNames
      built
      dtoStems := plannable.dtoStems.of_begins (begins.map _)
      validatorStems := plannable.validatorStems.of_begins (validated.map _)
      requestStems := plannable.requestStems
      handlerStems := plannable.handlerStems }

example : (clinic.plan ⟨true, true⟩).toOption.map (·.dtos.map (·.name)) =
    some ["PetDto", "OwnerDto", "TagDto", "VaccineDto"] := by
  decide +kernel

theorem clinic_begins :
    ∃ plan reached, clinic.plan ⟨true, true⟩ = .ok plan ∧
      clinic.plan ⟨true, false⟩ = .ok reached ∧
      reached.requests = plan.requests ∧ reached.handlers = plan.handlers ∧
      reached.dtos <+: plan.dtos ∧ reached.validators <+: plan.validators := by
  have made : (clinic.plan ⟨true, true⟩).isOk = true := by decide +kernel
  obtain ⟨plan, planned⟩ := exists_of_isOk made
  obtain ⟨reached, rest⟩ := plan_begins planned
  exact ⟨plan, reached, planned, rest⟩

end Document

end ApiContracts
