import ApiContracts.Contract.Dto
import ApiContracts.Error

/-!
The closure of a document: a DTO for every model that its operations reach, each found by
following the references of properties breadth first, and the marks on properties that lead
back to their owner.
-/

namespace ApiContracts

/-- The model that a name stands for: the one of that name or, for a name with the DTO suffix,
the one of the name without it. -/
def lookupModel? (models : List Model) (name : String) : Option Model :=
  match models.find? (·.name == name) with
  | some model => some model
  | none =>
    if Naming.isDtoName name then models.find? fun model => model.name ++ "Dto" == name
    else none

def Model.references (model : Model) : List String :=
  model.properties.flatMap (·.type.references)

structure Closure where
  visited : List String
  dtos : List Dto
deriving Repr

namespace Closure

def empty : Closure := ⟨[], []⟩

def contains (closure : Closure) (dtoName : String) : Bool := closure.visited.contains dtoName

def add (closure : Closure) (dtoName : String) (model : Model) : Closure :=
  ⟨dtoName :: closure.visited, closure.dtos ++ [Dto.ofModel model]⟩

/-- How many references the models can still add: each model counts once for each of the two
names it may be gathered under. -/
def potential (models : List Model) (visited : List String) : Nat :=
  models.foldr (fun model total =>
    (if visited.contains (Naming.dtoName model.name) then 0 else model.references.length) +
    (if visited.contains (Naming.dtoName (model.name ++ "Dto")) then 0
      else model.references.length) + total) 0

abbrev Reference := String × String

theorem lookupModel?_eq_some {models : List Model} {name : String} {model : Model}
    (found : lookupModel? models name = some model) :
    model ∈ models ∧ (model.name = name ∨ model.name ++ "Dto" = name) := by
  rw [lookupModel?] at found
  split at found
  next hit =>
    obtain rfl := Option.some.inj found
    exact ⟨List.mem_of_find?_eq_some hit, .inl (by simpa using List.find?_some hit)⟩
  next =>
    split at found
    · exact ⟨List.mem_of_find?_eq_some found, .inr (by simpa using List.find?_some found)⟩
    · simp at found

theorem unless_or_le (known found : Bool) (weight : Nat) :
    (if (known || found) = true then 0 else weight) ≤ if found = true then 0 else weight := by
  cases known <;> simp

theorem potential_cons_le (models : List Model) (visited : List String) (name : String) :
    potential models (name :: visited) ≤ potential models visited := by
  induction models with
  | nil => simp [potential]
  | cons model rest ih =>
      simp only [potential, List.foldr_cons, List.contains_cons] at ih ⊢
      exact Nat.add_le_add (Nat.add_le_add (unless_or_le ..) (unless_or_le ..)) ih

theorem potential_add_le {models : List Model} {model : Model} {visited : List String}
    {name : String} (member : model ∈ models)
    (named : model.name = name ∨ model.name ++ "Dto" = name)
    (fresh : visited.contains (Naming.dtoName name) = false) :
    potential models (Naming.dtoName name :: visited) + model.references.length ≤
      potential models visited := by
  induction models with
  | nil => simp at member
  | cons first rest ih =>
      have tailLe := potential_cons_le rest visited (Naming.dtoName name)
      have plain := unless_or_le (Naming.dtoName first.name == Naming.dtoName name)
        (visited.contains (Naming.dtoName first.name)) first.references.length
      have suffixed := unless_or_le (Naming.dtoName (first.name ++ "Dto") == Naming.dtoName name)
        (visited.contains (Naming.dtoName (first.name ++ "Dto"))) first.references.length
      simp only [potential, List.foldr_cons, List.contains_cons] at ih tailLe ⊢
      rcases List.mem_cons.1 member with rfl | later
      · rcases named with rfl | rfl <;>
          simp only [fresh, BEq.rfl, Bool.or_false, Bool.false_eq_true, ↓reduceIte]
            at plain suffixed ⊢ <;> omega
      · have tail := ih later
        omega

/-- Follows the references of a worklist, first in first out. A name whose DTO is there is
passed over; one that no model stands for ends the walk, and what was gathered stays. -/
def follow (models : List Model) (closure : Closure) (worklist : List Reference) :
    Closure × Option Reference :=
  match worklist with
  | [] => (closure, none)
  | (name, holder) :: rest =>
    if _fresh : closure.contains (Naming.dtoName name) then follow models closure rest
    else
      match _found : lookupModel? models name with
      | none => (closure, some (name, holder))
      | some model =>
        follow models (closure.add (Naming.dtoName name) model)
          (rest ++ model.references.map fun reference => (reference, model.name))
termination_by potential models closure.visited + worklist.length
decreasing_by
  · simp
  · obtain ⟨member, named⟩ := lookupModel?_eq_some _found
    have bound := potential_add_le member named (Bool.eq_false_iff.2 _fresh)
    simp only [add, List.length_append, List.length_map, List.length_cons]
    omega

def unknownModel (reference : Reference) : GenerationError :=
  .unknownModel reference.1 reference.2

def expand (models : List Model) (closure : Closure) (holder : String) (root : TypeExpr) :
    Closure × Option Reference :=
  follow models closure (root.references.map fun name => (name, holder))

def expandAll (models : List Model) (closure : Closure) :
    List (String × TypeExpr) → Closure × Option Reference
  | [] => (closure, none)
  | (holder, root) :: rest =>
    match expand models closure holder root with
    | (closure, some missing) => (closure, some missing)
    | (closure, none) => expandAll models closure rest

/-- What each DTO holds directly; of two DTOs of one name the later counts. -/
abbrev Edges := List (String × List String)

def targets (edges : Edges) (name : String) : List String :=
  ((edges.reverse.find? (·.1 == name)).map (·.2)).getD []

def unseenTargets (edges : Edges) (seen : List String) : Nat :=
  edges.foldr (fun edge total =>
    (if seen.contains edge.1 then 0 else edge.2.length) + total) 0

theorem unseenTargets_cons_le (edges : Edges) (seen : List String) (name : String) :
    unseenTargets edges (name :: seen) ≤ unseenTargets edges seen := by
  induction edges with
  | nil => simp [unseenTargets]
  | cons edge rest ih =>
      simp only [unseenTargets, List.foldr_cons, List.contains_cons] at ih ⊢
      exact Nat.add_le_add (unless_or_le ..) ih

theorem unseenTargets_add_le {edges : Edges} {seen : List String} {name : String}
    {edge : String × List String} (member : edge ∈ edges) (named : edge.1 = name)
    (fresh : seen.contains name = false) :
    unseenTargets edges (name :: seen) + edge.2.length ≤ unseenTargets edges seen := by
  induction edges with
  | nil => simp at member
  | cons first rest ih =>
      have tailLe := unseenTargets_cons_le rest seen name
      simp only [unseenTargets, List.foldr_cons, List.contains_cons] at ih tailLe ⊢
      have headLe := unless_or_le (first.1 == name) (seen.contains first.1) first.2.length
      rcases List.mem_cons.1 member with rfl | later
      · subst named
        simp only [fresh, BEq.rfl, Bool.true_or, Bool.false_eq_true, ↓reduceIte]
        omega
      · have tail := ih later
        omega

theorem unseenTargets_targets_le {edges : Edges} {seen : List String} {name : String}
    (fresh : seen.contains name = false) :
    unseenTargets edges (name :: seen) + (targets edges name).length ≤
      unseenTargets edges seen := by
  rw [targets]
  cases hit : edges.reverse.find? (·.1 == name) with
  | none => simpa using unseenTargets_cons_le edges seen name
  | some edge =>
      simpa using unseenTargets_add_le (List.mem_reverse.1 (List.mem_of_find?_eq_some hit))
        (by simpa using List.find?_some hit) fresh

def search (edges : Edges) (goal : String) (seen stack : List String) : Bool :=
  match stack with
  | [] => false
  | name :: rest =>
    if name == goal then true
    else if _fresh : seen.contains name then search edges goal seen rest
    else search edges goal (name :: seen) (targets edges name ++ rest)
termination_by unseenTargets edges seen + stack.length
decreasing_by
  · simp
  · have bound : unseenTargets edges (name :: seen) + _ ≤ _ :=
      unseenTargets_targets_le (Bool.eq_false_iff.2 _fresh)
    simp only [List.length_append, List.length_cons]
    omega

def reaches (edges : Edges) (start goal : String) : Bool := search edges goal [] [start]

def edges (dtos : List Dto) : Edges := dtos.map fun dto => (dto.name, dto.directTargets)

def boxProperty (edges : Edges) (owner : String) (property : DtoProperty) : DtoProperty :=
  match property.directTarget? with
  | none => property
  | some target => { property with boxed := reaches edges target owner }

def boxRecursive (closure : Closure) : Closure :=
  let edges := edges closure.dtos
  { closure with
    dtos := closure.dtos.map fun dto =>
      { dto with properties := dto.properties.map (boxProperty edges dto.name) } }

end Closure

def Operation.roots (operation : Operation) : List (String × TypeExpr) :=
  let body := operation.requestBody.toList.map (·.type)
  let response := operation.response.declaredType?.toList
  let parameters := operation.parameters.map (·.type)
  (body ++ response ++ parameters).map fun type => (operation.operationId, type)

def Document.roots (document : Document) (includeAllModels : Bool) : List (String × TypeExpr) :=
  document.operations.flatMap Operation.roots ++
    if includeAllModels then
      document.models.map fun model => (model.name, .reference model.name)
    else []

def Document.closure (document : Document) (includeAllModels : Bool) :
    Except GenerationError Closure :=
  match Closure.expandAll document.models .empty (document.roots includeAllModels) with
  | (closure, none) => .ok closure.boxRecursive
  | (_, some missing) => .error (Closure.unknownModel missing)

end ApiContracts
