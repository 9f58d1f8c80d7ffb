import ApiContracts.Proofs.Plan.Outcome
import Mathlib.Data.List.Nodup
import Mathlib.Logic.Relation

/-!
Boxing is exact: a property is kept behind a pointer just if what it directly holds leads back to
its owner. Properties that are not boxed therefore never close a circle.
-/

namespace ApiContracts

namespace Closure

def HasEdge (edges : Edges) (source target : String) : Prop := target ∈ targets edges source

theorem search_sound {edges : Edges} {goal : String} {seen stack : List String}
    (found : search edges goal seen stack = true) :
    ∃ name ∈ stack, Relation.ReflTransGen (HasEdge edges) name goal := by
  fun_induction search edges goal seen stack with
  | case1 seen => simp at found
  | case2 seen name rest same =>
      obtain rfl := beq_iff_eq.mp same
      exact ⟨name, List.mem_cons_self, .refl⟩
  | case3 seen name rest other known ih =>
      obtain ⟨start, member, path⟩ := ih found
      exact ⟨start, List.mem_cons_of_mem _ member, path⟩
  | case4 seen name rest other fresh ih =>
      obtain ⟨start, member, path⟩ := ih found
      rcases List.mem_append.mp member with held | later
      · exact ⟨name, List.mem_cons_self, .head held path⟩
      · exact ⟨start, List.mem_cons_of_mem _ later, path⟩

/-- A search has dealt with the names it has seen: none is the goal, and what they hold has been
seen or is still on the stack. -/
def Explored (edges : Edges) (goal : String) (seen stack : List String) : Prop :=
  ∀ name ∈ seen, name ≠ goal ∧ ∀ target, HasEdge edges name target → target ∈ seen ∨ target ∈ stack

theorem Explored.avoids {edges : Edges} {goal name : String} {seen : List String}
    (explored : Explored edges goal seen []) (member : name ∈ seen) :
    ¬Relation.ReflTransGen (HasEdge edges) name goal := by
  have stays : ∀ other, Relation.ReflTransGen (HasEdge edges) name other → other ∈ seen := by
    intro other path
    induction path with
    | refl => exact member
    | tail _ held ih => exact ((explored _ ih).2 _ held).resolve_right (by simp)
  intro path
  exact (explored goal (stays goal path)).1 rfl

theorem Explored.skip {edges : Edges} {goal name : String} {seen rest : List String}
    (explored : Explored edges goal seen (name :: rest)) (known : name ∈ seen) :
    Explored edges goal seen rest := by
  intro other member
  refine ⟨(explored other member).1, fun target held => ?_⟩
  rcases (explored other member).2 target held with inSeen | onStack
  · exact .inl inSeen
  · rcases List.mem_cons.mp onStack with rfl | later
    · exact .inl known
    · exact .inr later

theorem Explored.visit {edges : Edges} {goal name : String} {seen rest : List String}
    (explored : Explored edges goal seen (name :: rest)) (other : name ≠ goal) :
    Explored edges goal (name :: seen) (targets edges name ++ rest) := by
  intro visited member
  rcases List.mem_cons.mp member with rfl | earlier
  · exact ⟨other, fun target held => .inr (List.mem_append_left _ held)⟩
  · refine ⟨(explored visited earlier).1, fun target held => ?_⟩
    rcases (explored visited earlier).2 target held with inSeen | onStack
    · exact .inl (List.mem_cons_of_mem _ inSeen)
    · rcases List.mem_cons.mp onStack with rfl | later
      · exact .inl List.mem_cons_self
      · exact .inr (List.mem_append_right _ later)

theorem search_complete {edges : Edges} {goal : String} {seen stack : List String}
    (explored : Explored edges goal seen stack) (missed : search edges goal seen stack = false)
    {name : String} (member : name ∈ seen ∨ name ∈ stack) :
    ¬Relation.ReflTransGen (HasEdge edges) name goal := by
  fun_induction search edges goal seen stack with
  | case1 seen => exact explored.avoids (member.resolve_right (by simp))
  | case2 seen first rest same => simp at missed
  | case3 seen first rest other known ih =>
      have firstSeen : first ∈ seen := List.contains_iff_mem.mp known
      apply ih (explored.skip firstSeen) missed
      rcases member with inSeen | onStack
      · exact .inl inSeen
      · rcases List.mem_cons.mp onStack with rfl | later
        · exact .inl firstSeen
        · exact .inr later
  | case4 seen first rest other fresh ih =>
      apply ih (explored.visit (by simpa using other)) missed
      rcases member with inSeen | onStack
      · exact .inl (List.mem_cons_of_mem _ inSeen)
      · rcases List.mem_cons.mp onStack with rfl | later
        · exact .inl List.mem_cons_self
        · exact .inr (List.mem_append_right _ later)

theorem reaches_iff (edges : Edges) (start goal : String) :
    reaches edges start goal = true ↔ Relation.ReflTransGen (HasEdge edges) start goal := by
  constructor
  · intro found
    obtain ⟨name, member, path⟩ := search_sound found
    obtain rfl := List.mem_singleton.mp member
    exact path
  · intro path
    have nothing : Explored edges goal [] [start] := by simp [Explored]
    cases missed : reaches edges start goal with
    | true => rfl
    | false => exact absurd path (search_complete nothing missed (.inr List.mem_cons_self))

theorem mem_targets_iff {edges : Edges} (distinct : (edges.map Prod.fst).Nodup)
    (source target : String) :
    target ∈ targets edges source ↔ ∃ held, (source, held) ∈ edges ∧ target ∈ held := by
  rw [targets]
  cases found : edges.reverse.find? (·.1 == source) with
  | none =>
      simp only [List.find?_eq_none, List.mem_reverse, beq_iff_eq] at found
      simp only [Option.map_none, Option.getD_none, List.not_mem_nil, false_iff, not_exists,
        not_and]
      intro held member
      exact absurd rfl (found (source, held) member)
  | some edge =>
      have member : edge ∈ edges := List.mem_reverse.mp (List.mem_of_find?_eq_some found)
      obtain rfl : edge.1 = source := by simpa using List.find?_some found
      simp only [Option.map_some, Option.getD_some]
      constructor
      · intro held
        exact ⟨edge.2, member, held⟩
      · rintro ⟨held, other, inHeld⟩
        have same : (edge.1, held) = edge := List.inj_on_of_nodup_map distinct other member rfl
        rwa [← same]

end Closure

def Holds (dtos : List Dto) (owner target : String) : Prop :=
  ∃ dto ∈ dtos, dto.name = owner ∧ ∃ property ∈ dto.properties, property.type = .reference target

def HoldsUnboxed (dtos : List Dto) (owner target : String) : Prop :=
  ∃ dto ∈ dtos, dto.name = owner ∧
    ∃ property ∈ dto.properties, property.type = .reference target ∧ property.boxed = false

theorem HoldsUnboxed.holds {dtos : List Dto} {owner target : String}
    (held : HoldsUnboxed dtos owner target) : Holds dtos owner target := by
  obtain ⟨dto, member, named, property, isProperty, typed, _⟩ := held
  exact ⟨dto, member, named, property, isProperty, typed⟩

theorem DtoProperty.directTarget?_eq_some_iff (property : DtoProperty) (target : String) :
    property.directTarget? = some target ↔ property.type = .reference target := by
  rw [directTarget?]
  cases property.type <;> simp

namespace Closure

theorem hasEdge_iff_holds {dtos : List Dto} (distinct : (dtos.map (·.name)).Nodup) :
    HasEdge (edges dtos) = Holds dtos := by
  have keys : ((edges dtos).map Prod.fst).Nodup := by
    simpa [edges, Function.comp_def] using distinct
  funext owner target
  rw [eq_iff_iff, HasEdge, mem_targets_iff keys]
  simp only [edges, List.mem_map, Prod.mk.injEq, Holds]
  constructor
  · rintro ⟨_, ⟨dto, member, named, rfl⟩, held⟩
    obtain ⟨property, isProperty, direct⟩ := List.mem_filterMap.mp held
    exact ⟨dto, member, named, property, isProperty,
      (property.directTarget?_eq_some_iff target).mp direct⟩
  · rintro ⟨dto, member, named, property, isProperty, typed⟩
    refine ⟨_, ⟨dto, member, named, rfl⟩, List.mem_filterMap.mpr ⟨property, isProperty, ?_⟩⟩
    exact (property.directTarget?_eq_some_iff target).mpr typed

@[simp] theorem boxProperty_type (edges : Edges) (owner : String) (property : DtoProperty) :
    (boxProperty edges owner property).type = property.type := by
  rw [boxProperty]
  split <;> rfl

theorem boxProperty_boxed_iff {edges : Edges} {owner : String} {property : DtoProperty}
    (plain : property.boxed = false) :
    (boxProperty edges owner property).boxed = true ↔
      ∃ target, property.type = .reference target ∧
        Relation.ReflTransGen (HasEdge edges) target owner := by
  simp only [← DtoProperty.directTarget?_eq_some_iff, ← reaches_iff]
  cases direct : property.directTarget? <;> simp [boxProperty, direct, plain]

def Plain (closure : Closure) : Prop :=
  ∀ dto ∈ closure.dtos, ∀ property ∈ dto.properties, property.boxed = false

theorem Plain.add {closure : Closure} (plain : closure.Plain) (name : String) (model : Model) :
    (closure.add name model).Plain := by
  intro dto member property isProperty
  rcases List.mem_append.mp member with old | new
  · exact plain dto old property isProperty
  · obtain rfl := List.mem_singleton.mp new
    obtain ⟨source, _, rfl⟩ := List.mem_map.mp isProperty
    rfl

theorem follow_plain (models : List Model) {closure : Closure} (worklist : List Reference)
    (plain : closure.Plain) : (follow models closure worklist).1.Plain := by
  fun_induction follow models closure worklist with
  | case1 closure => exact plain
  | case2 closure name holder rest there ih => exact ih plain
  | case3 closure name holder rest fresh unknown => exact plain
  | case4 closure name holder rest fresh model found ih => exact ih (plain.add _ model)

theorem expandAll_plain (models : List Model) {closure : Closure}
    (roots : List (String × TypeExpr)) (plain : closure.Plain) :
    (expandAll models closure roots).1.Plain := by
  fun_induction expandAll models closure roots with
  | case1 closure => exact plain
  | case2 closure holder root rest after missing stopped =>
      have walked := follow_plain models (root.references.map fun name => (name, holder)) plain
      rw [expand] at stopped
      rwa [stopped] at walked
  | case3 closure holder root rest after finished ih =>
      have walked := follow_plain models (root.references.map fun name => (name, holder)) plain
      rw [expand] at finished
      rw [finished] at walked
      exact ih walked

theorem boxRecursive_names (closure : Closure) :
    closure.boxRecursive.dtos.map (·.name) = closure.dtos.map (·.name) := by
  simp [boxRecursive]

theorem boxRecursive_holds (closure : Closure) :
    Holds closure.boxRecursive.dtos = Holds closure.dtos := by
  funext owner target
  simp only [Holds, boxRecursive, List.mem_map, eq_iff_iff]
  constructor
  · rintro ⟨_, ⟨dto, member, rfl⟩, named, property, isProperty, typed⟩
    obtain ⟨source, isSource, rfl⟩ := List.mem_map.mp isProperty
    rw [boxProperty_type] at typed
    exact ⟨dto, member, named, source, isSource, typed⟩
  · rintro ⟨dto, member, named, property, isProperty, typed⟩
    refine ⟨_, ⟨dto, member, rfl⟩, named, _, List.mem_map_of_mem isProperty, ?_⟩
    rwa [boxProperty_type]

theorem mem_boxRecursive {closure : Closure} {dto : Dto}
    (member : dto ∈ closure.boxRecursive.dtos) :
    ∃ source ∈ closure.dtos, source.name = dto.name ∧
      dto.properties = source.properties.map (boxProperty (edges closure.dtos) dto.name) := by
  obtain ⟨source, isSource, rfl⟩ := List.mem_map.mp member
  exact ⟨source, isSource, rfl, rfl⟩

theorem Plain.boxed_iff {closure : Closure} (plain : closure.Plain)
    (distinct : (closure.dtos.map (·.name)).Nodup) {dto : Dto}
    (member : dto ∈ closure.boxRecursive.dtos) {property : DtoProperty}
    (isProperty : property ∈ dto.properties) :
    property.boxed = true ↔ ∃ target, property.type = .reference target ∧
      Relation.ReflTransGen (Holds closure.boxRecursive.dtos) target dto.name := by
  obtain ⟨source, isSource, _, marked⟩ := mem_boxRecursive member
  rw [marked] at isProperty
  obtain ⟨original, isOriginal, rfl⟩ := List.mem_map.mp isProperty
  rw [boxProperty_boxed_iff (plain source isSource original isOriginal), boxProperty_type,
    boxRecursive_holds, hasEdge_iff_holds distinct]

end Closure

namespace Document

theorem closure_plain {document : Document} {includeAllModels : Bool} {closure : Closure}
    (built : document.closure includeAllModels = .ok closure) :
    ∃ gathered : Closure, gathered.Plain ∧ gathered.boxRecursive = closure := by
  have nothing : Closure.empty.Plain := by simp [Closure.Plain, Closure.empty]
  have plain := Closure.expandAll_plain document.models (document.roots includeAllModels) nothing
  rw [Document.closure] at built
  split at built
  next gathered finished =>
      rw [finished] at plain
      exact ⟨gathered, plain, Except.ok.inj built⟩
  next => simp at built

theorem Plannable.names_nodup {document : Document} {options : PlanOptions} {closure : Closure}
    (plannable : document.Plannable options closure) : (closure.dtos.map (·.name)).Nodup :=
  List.Nodup.of_map _ plannable.dtoStems

/-- In a plan a property is boxed just if it directly holds something from which its owner is
reached through direct holdings. So the holdings that are not boxed form no circle. -/
theorem plan_boxing_exact {document : Document} {options : PlanOptions} {plan : Plan}
    (planned : document.plan options = .ok plan) :
    (∀ dto ∈ plan.dtos, ∀ property ∈ dto.properties,
      (property.boxed = true ↔ ∃ target, property.type = .reference target ∧
        Relation.ReflTransGen (Holds plan.dtos) target dto.name)) ∧
    ∀ name, ¬Relation.TransGen (HoldsUnboxed plan.dtos) name name := by
  obtain ⟨closure, plannable, rfl⟩ := (plan_eq_ok_iff document options plan).mp planned
  obtain ⟨gathered, plain, rfl⟩ := closure_plain plannable.built
  have distinct := plannable.names_nodup
  rw [Closure.boxRecursive_names] at distinct
  have exact : ∀ dto ∈ gathered.boxRecursive.dtos, ∀ property ∈ dto.properties,
      (property.boxed = true ↔ ∃ target, property.type = .reference target ∧
        Relation.ReflTransGen (Holds gathered.boxRecursive.dtos) target dto.name) :=
    fun dto isDto property isProperty => plain.boxed_iff distinct isDto isProperty
  refine ⟨exact, ?_⟩
  intro name circle
  -- The first step of a circle has the rest of it as a way back, so it is boxed.
  obtain ⟨target, ⟨dto, isDto, rfl, property, isProperty, typed, unboxed⟩, back⟩ :=
    Relation.TransGen.head'_iff.mp circle
  have boxed := (exact dto isDto property isProperty).mpr
    ⟨target, typed, Relation.ReflTransGen.mono (fun _ _ => HoldsUnboxed.holds) _ _ back⟩
  rw [unboxed] at boxed
  contradiction

def shop : Document :=
  let property (name : String) (type : TypeExpr) : Property :=
    ⟨name, type, true, false, none, .none, none⟩
  { title := "Shop"
    version := "1"
    operations :=
      [⟨"placeOrder", ⟨"POST"⟩, "/orders", none, [], [], some ⟨.reference "Order", true⟩, .void⟩]
    models :=
      [⟨"Address", none, [property "street" (.scalar .string)], []⟩,
        ⟨"Customer", none, [property "address" (.reference "Address"),
          property "lastOrder" (.reference "Order")], []⟩,
        ⟨"Order", none, [property "buyer" (.reference "CustomerDto"),
          property "parts" (.array (.reference "Order"))], []⟩] }

example : (shop.closure false).toOption.map (fun closure =>
    closure.dtos.map fun dto =>
      dto.properties.map fun property => (property.name, property.boxed)) =
      some [[("buyer", true), ("parts", false)], [("address", false), ("lastOrder", true)],
        [("street", false)]] := by
  decide +kernel

theorem shop_boxing_exact :
    ∃ plan, shop.plan ⟨false, false⟩ = .ok plan ∧
      (∀ dto ∈ plan.dtos, ∀ property ∈ dto.properties,
        (property.boxed = true ↔ ∃ target, property.type = .reference target ∧
          Relation.ReflTransGen (Holds plan.dtos) target dto.name)) ∧
      ∀ name, ¬Relation.TransGen (HoldsUnboxed plan.dtos) name name := by
  have made : (shop.plan ⟨false, false⟩).isOk = true := by decide +kernel
  cases planned : shop.plan ⟨false, false⟩ with
  | error error => simp [planned, Except.isOk, Except.toBool] at made
  | ok plan => exact ⟨plan, rfl, plan_boxing_exact planned⟩

end Document

end ApiContracts
