import ApiContracts.Proofs.Closure.Resolution
import ApiContracts.Proofs.Types.Parts

/-!
What a walk over references gathers. The findings of a closure are its models with the names that
they were found by. A walk only adds findings, adds none that its worklist does not lead to, and
leaves no reference open unless it stops at a name that stands for no model.
-/

namespace ApiContracts

/-- The names met on the way from `seeds`: they themselves, and every name in the properties of a
model that a met name stands for. -/
inductive Meets (standsFor : String → Model → Prop) (seeds : String → Prop) : String → Prop
  | seed {name} : seeds name → Meets standsFor seeds name
  | held {name model reference} : Meets standsFor seeds name → standsFor name model →
      model.Mentions reference → Meets standsFor seeds reference

theorem Meets.from {standsFor : String → Model → Prop} {seeds later : String → Prop}
    {name : String} (met : Meets standsFor later name)
    (reached : ∀ seed, later seed → Meets standsFor seeds seed) : Meets standsFor seeds name := by
  induction met with
  | seed isSeed => exact reached _ isSeed
  | held _ stands holds ih => exact .held ih stands holds

theorem Meets.mono {standsFor : String → Model → Prop} {seeds later : String → Prop}
    {name : String} (met : Meets standsFor later name)
    (included : ∀ seed, later seed → seeds seed) : Meets standsFor seeds name :=
  met.from fun seed isSeed => .seed (included seed isSeed)

def Dto.unboxed (dto : Dto) : Dto :=
  { dto with properties := dto.properties.map fun property => { property with boxed := false } }

@[simp] theorem Dto.unboxed_name (dto : Dto) : dto.unboxed.name = dto.name := rfl

@[simp] theorem Dto.unboxed_ofModel (model : Model) :
    (Dto.ofModel model).unboxed = Dto.ofModel model := by
  simp [Dto.unboxed, Dto.ofModel, DtoProperty.ofProperty]

namespace Closure

abbrev Finding := String × Model

def Finding.dtoName (finding : Finding) : String := Naming.dtoName finding.1

/-- The closure holds the DTOs of `findings`, in order and apart from the marks of boxing, each
gathered under a name of its own. -/
structure Gathered (models : List Model) (findings : List Finding) (closure : Closure) : Prop where
  found : ∀ finding ∈ findings, lookupModel? models finding.1 = some finding.2
  distinct : (findings.map Finding.dtoName).Nodup
  contains_iff : ∀ name, closure.contains name = true ↔ name ∈ findings.map Finding.dtoName
  dtos_eq : closure.dtos.map Dto.unboxed = findings.map fun finding => Dto.ofModel finding.2

theorem gathered_empty (models : List Model) : Gathered models [] .empty := by
  constructor <;> simp [empty, contains]

theorem Gathered.add {models : List Model} {findings : List Finding} {closure : Closure}
    {name : String} {model : Model} (gathered : Gathered models findings closure)
    (fresh : ¬closure.contains (Naming.dtoName name) = true)
    (found : lookupModel? models name = some model) :
    Gathered models (findings ++ [(name, model)]) (closure.add (Naming.dtoName name) model) := by
  constructor
  · intro finding member
    rcases List.mem_append.mp member with old | new
    · exact gathered.found finding old
    · obtain rfl := List.mem_singleton.mp new
      exact found
  · rw [List.map_append, List.nodup_append]
    refine ⟨gathered.distinct, by simp, ?_⟩
    rintro other member _ new rfl
    rw [List.map_singleton, List.mem_singleton] at new
    subst new
    exact fresh ((gathered.contains_iff _).mpr member)
  · intro other
    have before := gathered.contains_iff other
    simp only [contains, List.contains_iff_mem] at before
    simp [contains, Closure.add, before, Finding.dtoName, or_comm]
  · simp [Closure.add, gathered.dtos_eq]

theorem Gathered.dto_names {models : List Model} {findings : List Finding} {closure : Closure}
    (gathered : Gathered models findings closure) :
    closure.dtos.map (·.name) = findings.map fun finding => Naming.dtoName finding.2.name := by
  have names := congrArg (List.map fun dto : Dto => dto.name) gathered.dtos_eq
  simpa only [List.map_map, Function.comp_def, Dto.unboxed_name, Dto.ofModel] using names

theorem Gathered.origin {models : List Model} {findings : List Finding} {closure : Closure}
    (gathered : Gathered models findings closure) {dto : Dto} (isDto : dto ∈ closure.dtos) :
    ∃ finding ∈ findings, Dto.ofModel finding.2 = dto.unboxed := by
  rw [← List.mem_map, ← gathered.dtos_eq]
  exact List.mem_map_of_mem isDto

theorem Gathered.exists_dto {models : List Model} {findings : List Finding} {closure : Closure}
    (gathered : Gathered models findings closure) {finding : Finding}
    (isFinding : finding ∈ findings) :
    ∃ dto ∈ closure.dtos, dto.unboxed = Dto.ofModel finding.2 := by
  rw [← List.mem_map, gathered.dtos_eq]
  exact List.mem_map_of_mem isFinding

theorem Gathered.names_eq {models : List Model} {findings : List Finding} {closure : Closure}
    (gathered : Gathered models findings closure) (plain : PlainNames models) :
    closure.dtos.map (·.name) = findings.map Finding.dtoName := by
  rw [gathered.dto_names]
  apply List.map_congr_left
  intro finding member
  exact dtoName_of_lookup plain (gathered.found finding member)

theorem unboxed_boxProperty (edges : Edges) (owner : String) (property : DtoProperty) :
    { boxProperty edges owner property with boxed := false } =
      { property with boxed := false } := by
  rw [boxProperty]
  split <;> rfl

theorem boxRecursive_unboxed (closure : Closure) :
    closure.boxRecursive.dtos.map Dto.unboxed = closure.dtos.map Dto.unboxed := by
  simp [boxRecursive, Dto.unboxed, unboxed_boxProperty, Function.comp_def]

theorem Gathered.boxRecursive {models : List Model} {findings : List Finding} {closure : Closure}
    (gathered : Gathered models findings closure) :
    Gathered models findings closure.boxRecursive := by
  refine ⟨gathered.found, gathered.distinct, gathered.contains_iff, ?_⟩
  rw [boxRecursive_unboxed, gathered.dtos_eq]

theorem Gathered.contains_of_prefix {models : List Model} {findings added : List Finding}
    {before after : Closure} (start : Gathered models findings before)
    (finish : Gathered models (findings ++ added) after) {name : String}
    (there : before.contains name = true) : after.contains name = true := by
  rw [finish.contains_iff, List.map_append, List.mem_append]
  exact .inl ((start.contains_iff name).mp there)

/-- What a walk from a closure with `findings` over a worklist comes to. -/
structure Walked (models : List Model) (findings : List Finding) (worklist : List Reference)
    (added : List Finding) (result : Closure × Option Reference) : Prop where
  gathered : Gathered models (findings ++ added) result.1
  met : ∀ finding ∈ added, Meets (fun name model => lookupModel? models name = some model)
    (fun name => name ∈ worklist.map Prod.fst) finding.1
  followed : result.2 = none → ∀ reference ∈ worklist,
    result.1.contains (Naming.dtoName reference.1) = true
  closed : result.2 = none → ∀ finding ∈ added, ∀ name, finding.2.Mentions name →
    result.1.contains (Naming.dtoName name) = true
  missing : ∀ reference, result.2 = some reference → lookupModel? models reference.1 = none ∧
    (reference ∈ worklist ∨
      ∃ finding ∈ added, reference.2 = finding.2.name ∧ finding.2.Mentions reference.1)

theorem walked_nil {models : List Model} {findings : List Finding} {closure : Closure}
    (gathered : Gathered models findings closure) :
    Walked models findings [] [] (closure, none) := by
  constructor <;> simp [gathered]

theorem Walked.skip {models : List Model} {findings added : List Finding} {closure : Closure}
    {reference : Reference} {rest : List Reference} {result : Closure × Option Reference}
    (start : Gathered models findings closure)
    (there : closure.contains (Naming.dtoName reference.1) = true)
    (walked : Walked models findings rest added result) :
    Walked models findings (reference :: rest) added result := by
  constructor
  · exact walked.gathered
  · intro finding member
    exact (walked.met finding member).mono fun _ inRest => List.mem_cons_of_mem _ inRest
  · intro finished other member
    rcases List.mem_cons.mp member with rfl | inRest
    · exact start.contains_of_prefix walked.gathered there
    · exact walked.followed finished other inRest
  · exact walked.closed
  · intro other stopped
    obtain ⟨unknown, origin⟩ := walked.missing other stopped
    exact ⟨unknown, origin.imp_left (List.mem_cons_of_mem _)⟩

theorem walked_stop {models : List Model} {findings : List Finding} {closure : Closure}
    {reference : Reference} {rest : List Reference} (start : Gathered models findings closure)
    (unknown : lookupModel? models reference.1 = none) :
    Walked models findings (reference :: rest) [] (closure, some reference) := by
  constructor <;> simp [start, unknown]

theorem Walked.find {models : List Model} {findings added : List Finding} {name holder : String}
    {model : Model} {rest : List Reference} {result : Closure × Option Reference}
    (found : lookupModel? models name = some model)
    (walked : Walked models (findings ++ [(name, model)])
      (rest ++ model.references.map fun reference => (reference, model.name)) added result) :
    Walked models findings ((name, holder) :: rest) ((name, model) :: added) result := by
  have nameMet : Meets (fun name model => lookupModel? models name = some model)
      (fun other => other ∈ ((name, holder) :: rest).map Prod.fst) name := .seed (by simp)
  have gathered : Gathered models (findings ++ (name, model) :: added) result.1 := by
    simpa using walked.gathered
  constructor
  · exact gathered
  · intro finding member
    rcases List.mem_cons.mp member with rfl | later
    · exact nameMet
    · apply (walked.met finding later).from
      intro seed isSeed
      rw [List.map_append, List.mem_append] at isSeed
      rcases isSeed with inRest | held
      · exact .seed (List.mem_cons_of_mem _ inRest)
      · exact .held nameMet found ((model.mem_references_iff seed).mp (by simpa using held))
  · intro finished other member
    rcases List.mem_cons.mp member with rfl | inRest
    · rw [gathered.contains_iff]
      simp [Finding.dtoName]
    · exact walked.followed finished other (List.mem_append_left _ inRest)
  · intro finished finding member other holds
    rcases List.mem_cons.mp member with rfl | later
    · apply walked.followed finished (other, model.name)
      exact List.mem_append_right _
        (List.mem_map.mpr ⟨other, (model.mem_references_iff other).mpr holds, rfl⟩)
    · exact walked.closed finished finding later other holds
  · intro other stopped
    obtain ⟨unknown, origin⟩ := walked.missing other stopped
    refine ⟨unknown, ?_⟩
    rcases origin with pending | ⟨finding, member, held⟩
    · rcases List.mem_append.mp pending with inRest | held
      · exact .inl (List.mem_cons_of_mem _ inRest)
      · obtain ⟨reference, holds, rfl⟩ := List.mem_map.mp held
        exact .inr ⟨(name, model), by simp, rfl, (model.mem_references_iff reference).mp holds⟩
    · exact .inr ⟨finding, List.mem_cons_of_mem _ member, held⟩

theorem follow_walked {models : List Model} {findings : List Finding} {closure : Closure}
    (worklist : List Reference) (start : Gathered models findings closure) :
    ∃ added, Walked models findings worklist added (follow models closure worklist) := by
  fun_induction follow models closure worklist generalizing findings with
  | case1 closure => exact ⟨[], walked_nil start⟩
  | case2 closure name holder rest there ih =>
      obtain ⟨added, walked⟩ := ih start
      exact ⟨added, walked.skip start there⟩
  | case3 closure name holder rest fresh unknown => exact ⟨[], walked_stop start unknown⟩
  | case4 closure name holder rest fresh model found ih =>
      obtain ⟨added, walked⟩ := ih (start.add fresh found)
      exact ⟨(name, model) :: added, walked.find found⟩

theorem Walked.append {models : List Model} {findings first second : List Finding}
    {middle : Closure} {early late : List Reference} {result : Closure × Option Reference}
    (start : Walked models findings early first (middle, none))
    (finish : Walked models (findings ++ first) late second result) :
    Walked models findings (early ++ late) (first ++ second) result := by
  have kept {name : String} (there : middle.contains name = true) :
      result.1.contains name = true :=
    start.gathered.contains_of_prefix finish.gathered there
  constructor
  · simpa using finish.gathered
  · intro finding member
    rcases List.mem_append.mp member with inFirst | inSecond
    · exact (start.met finding inFirst).mono fun _ isSeed => by simp [isSeed]
    · exact (finish.met finding inSecond).mono fun _ isSeed => by simp [isSeed]
  · intro finished reference member
    rcases List.mem_append.mp member with isEarly | isLate
    · exact kept (start.followed rfl reference isEarly)
    · exact finish.followed finished reference isLate
  · intro finished finding member name holds
    rcases List.mem_append.mp member with inFirst | inSecond
    · exact kept (start.closed rfl finding inFirst name holds)
    · exact finish.closed finished finding inSecond name holds
  · intro reference stopped
    obtain ⟨unknown, origin⟩ := finish.missing reference stopped
    refine ⟨unknown, ?_⟩
    rcases origin with pending | ⟨finding, member, held⟩
    · exact .inl (List.mem_append_right _ pending)
    · exact .inr ⟨finding, List.mem_append_right _ member, held⟩

theorem Walked.stopped {models : List Model} {findings added : List Finding} {closure : Closure}
    {worklist : List Reference} {reference : Reference} (rest : List Reference)
    (walked : Walked models findings worklist added (closure, some reference)) :
    Walked models findings (worklist ++ rest) added (closure, some reference) := by
  constructor
  · exact walked.gathered
  · intro finding member
    exact (walked.met finding member).mono fun _ isSeed => by simp [isSeed]
  · simp
  · simp
  · intro other stopped
    obtain ⟨unknown, origin⟩ := walked.missing other stopped
    exact ⟨unknown, origin.imp_left (List.mem_append_left _)⟩

def rootReferences (roots : List (String × TypeExpr)) : List Reference :=
  roots.flatMap fun root => root.2.references.map fun name => (name, root.1)

theorem expandAll_walked {models : List Model} {findings : List Finding} {closure : Closure}
    (roots : List (String × TypeExpr)) (start : Gathered models findings closure) :
    ∃ added, Walked models findings (rootReferences roots) added
      (expandAll models closure roots) := by
  fun_induction expandAll models closure roots generalizing findings with
  | case1 closure => exact ⟨[], walked_nil start⟩
  | case2 closure holder root rest after missing stopped =>
      obtain ⟨added, walked⟩ := follow_walked (root.references.map fun name => (name, holder)) start
      rw [expand] at stopped
      rw [stopped] at walked
      exact ⟨added, walked.stopped _⟩
  | case3 closure holder root rest after finished ih =>
      obtain ⟨first, walked⟩ := follow_walked (root.references.map fun name => (name, holder)) start
      rw [expand] at finished
      rw [finished] at walked
      obtain ⟨second, later⟩ := ih walked.gathered
      exact ⟨first ++ second, walked.append later⟩

end Closure

end ApiContracts
