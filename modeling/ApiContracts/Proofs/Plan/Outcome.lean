import ApiContracts.Contract.Plan
import ApiContracts.Proofs.Closure.Document

/-!
When a document has a plan, and which clash is reported if it has none for that reason.
-/

namespace ApiContracts

/-- Two different entries of a list derive one name; the earlier belongs to `first` and the later
to `second`. -/
def Clash {α : Type} (derived owner : α → String) (entries : List α)
    (name first second : String) : Prop :=
  ∃ earlier later, [earlier, later].Sublist entries ∧
    (derived earlier = name ∧ owner earlier = first) ∧
    (derived later = name ∧ owner later = second)

theorem clash?_eq_none_iff (earlier entries : List (String × String)) :
    clash? earlier entries = none ↔
      (∀ entry ∈ entries, ∀ old ∈ earlier, old.1 ≠ entry.1) ∧ (entries.map Prod.fst).Nodup := by
  induction entries generalizing earlier with
  | nil => simp [clash?]
  | cons entry rest ih =>
      obtain ⟨key, owner⟩ := entry
      rw [clash?]
      cases hit : earlier.find? (·.1 == key) with
      | some old =>
          have member := List.mem_of_find?_eq_some hit
          have same : old.1 = key := by simpa using List.find?_some hit
          simp only [reduceCtorEq, false_iff, not_and]
          intro apart
          exact absurd same (apart (key, owner) (by simp) old member)
      | none =>
          simp only [List.find?_eq_none, beq_iff_eq] at hit
          simp only [ih, List.mem_cons, List.map_cons, List.nodup_cons, List.mem_map,
            forall_eq_or_imp]
          constructor
          · rintro ⟨apart, unique⟩
            refine ⟨⟨hit, fun entry member => (apart entry member).2⟩, ?_, unique⟩
            rintro ⟨entry, member, same⟩
            exact (apart entry member).1 same.symm
          · rintro ⟨⟨_, apart⟩, fresh, unique⟩
            refine ⟨fun entry member => ⟨?_, apart entry member⟩, unique⟩
            intro same
            exact fresh ⟨entry, member, same.symm⟩

theorem clash?_eq_some {earlier entries : List (String × String)} {name first second : String}
    (found : clash? earlier entries = some (name, first, second)) :
    ((name, first) ∈ earlier ∧ (name, second) ∈ entries) ∨
      [(name, first), (name, second)].Sublist entries := by
  induction entries generalizing earlier with
  | nil => simp [clash?] at found
  | cons entry rest ih =>
      obtain ⟨key, owner⟩ := entry
      rw [clash?] at found
      cases hit : earlier.find? (·.1 == key) with
      | some old =>
          obtain ⟨oldKey, oldOwner⟩ := old
          have same : oldKey = key := by simpa using List.find?_some hit
          simp only [hit, Option.some.injEq, Prod.mk.injEq] at found
          obtain ⟨rfl, rfl, rfl⟩ := found
          exact .inl ⟨same ▸ List.mem_of_find?_eq_some hit, by simp⟩
      | none =>
          simp only [hit] at found
          rcases ih found with ⟨old, later⟩ | both
          · rcases List.mem_cons.mp old with here | before
            · rw [here]
              exact .inr ((List.singleton_sublist.mpr later).cons_cons _)
            · exact .inl ⟨before, List.mem_cons_of_mem _ later⟩
          · exact .inr (both.cons _)

theorem distinct_ok_iff (entries : List (String × String)) :
    distinct entries = .ok () ↔ (entries.map Prod.fst).Nodup := by
  rw [distinct]
  cases found : clash? [] entries with
  | none => simpa using (clash?_eq_none_iff [] entries).mp found
  | some clash =>
      simp only [reduceCtorEq, false_iff]
      intro unique
      have clear := (clash?_eq_none_iff [] entries).mpr ⟨by simp, unique⟩
      simp [clear] at found

theorem distinct_clash {α : Type} {derived owner : α → String} {entries : List α}
    {name first second : String}
    (failed : distinct (entries.map fun entry => (derived entry, owner entry)) =
      .error (.namingCollision name first second)) :
    Clash derived owner entries name first second := by
  rw [distinct] at failed
  split at failed
  next => simp at failed
  next key old new found =>
      simp only [Except.error.injEq, GenerationError.namingCollision.injEq] at failed
      obtain ⟨rfl, rfl, rfl⟩ := failed
      have both := (clash?_eq_some found).resolve_left (by simp)
      obtain ⟨pair, pairs, same⟩ := List.sublist_map_iff.mp both
      obtain ⟨earlier, others, rfl, atFirst, same⟩ := List.map_eq_cons_iff.mp same.symm
      obtain ⟨later, others, rfl, atSecond, same⟩ := List.map_eq_cons_iff.mp same
      obtain rfl := List.map_eq_nil_iff.mp same
      exact ⟨earlier, later, pairs, Prod.mk.inj atFirst, Prod.mk.inj atSecond⟩

theorem distinct_error_of_not_nodup {entries : List (String × String)}
    (repeated : ¬(entries.map Prod.fst).Nodup) :
    ∃ key first second, distinct entries = .error (.namingCollision key first second) := by
  rw [← distinct_ok_iff, distinct] at repeated
  rw [distinct]
  split
  next noClash => exact absurd (by rw [noClash]) repeated
  next key first second _ => exact ⟨key, first, second, rfl⟩

theorem clash?_first {earlier front : List (String × String)} {key first second : String}
    (fresh : ((front.reverse ++ earlier).map Prod.fst).Nodup)
    (there : (key, first) ∈ front.reverse ++ earlier) (back : List (String × String)) :
    clash? earlier (front ++ (key, second) :: back) = some (key, first, second) := by
  induction front generalizing earlier with
  | nil =>
      have hit : earlier.find? (·.1 == key) = some (key, first) := find?_distinct fresh there
      rw [List.nil_append, clash?, hit]
  | cons entry front ih =>
      rw [List.reverse_cons, List.append_assoc, List.singleton_append] at fresh there
      have miss : earlier.find? (·.1 == entry.1) = none := by
        rw [List.map_append, List.map_cons] at fresh
        have apart := (List.nodup_cons.mp (List.nodup_append.mp fresh).2.1).1
        simp only [List.find?_eq_none, beq_iff_eq]
        exact fun old isOld same => apart (List.mem_map.mpr ⟨old, isOld, same⟩)
      rw [List.cons_append, clash?, miss]
      exact ih fresh there

theorem distinct_first {front : List (String × String)} {key first second : String}
    (fresh : (front.map Prod.fst).Nodup) (there : (key, first) ∈ front)
    (back : List (String × String)) :
    distinct (front ++ (key, second) :: back) = .error (.namingCollision key first second) := by
  have apart : ((front.reverse ++ []).map Prod.fst).Nodup := by
    rw [List.append_nil]
    exact ((List.reverse_perm front).map _).nodup_iff.mpr fresh
  have found : clash? [] (front ++ (key, second) :: back) = some (key, first, second) :=
    clash?_first apart (by simpa using there) back
  rw [distinct, found]

def DistinctStems (names : List String) : Prop := (names.map Naming.fileStem).Nodup

theorem distinctStems_ok_iff (names : List String) :
    distinctStems names = .ok () ↔ DistinctStems names := by
  simp [distinctStems, distinct_ok_iff, DistinctStems, Function.comp_def]

theorem distinctStems_clash {α : Type} {name : α → String} {entries : List α}
    {stem first second : String}
    (failed : distinctStems (entries.map name) = .error (.namingCollision stem first second)) :
    Clash (fun entry => Naming.fileStem (name entry)) name entries stem first second := by
  rw [distinctStems, List.map_map] at failed
  exact distinct_clash failed

theorem exists_of_isOk {ε α : Type} {result : Except ε α} (made : result.isOk = true) :
    ∃ value, result = .ok value := by
  cases result with
  | error error => simp [Except.isOk, Except.toBool] at made
  | ok value => exact ⟨value, rfl⟩

theorem bind_ok_iff {ε α β : Type} (first : Except ε α) (next : α → Except ε β) (result : β) :
    (first >>= next) = .ok result ↔ ∃ value, first = .ok value ∧ next value = .ok result := by
  cases first <;> simp [bind, Except.bind]

theorem map_ok_iff {ε α β : Type} (make : α → β) (result : Except ε α) (made : β) :
    result.map make = .ok made ↔ ∃ value, result = .ok value ∧ make value = made := by
  cases result <;> simp [Except.map]

theorem check_bind_ok_iff {ε β : Type} (check : Except ε Unit) (next : Unit → Except ε β)
    (result : β) : (check >>= next) = .ok result ↔ check = .ok () ∧ next () = .ok result := by
  cases check <;> simp [bind, Except.bind]

theorem bind_error_iff {ε α β : Type} (first : Except ε α) (next : α → Except ε β) (error : ε) :
    (first >>= next) = .error error ↔
      first = .error error ∨ ∃ value, first = .ok value ∧ next value = .error error := by
  cases first <;> simp [bind, Except.bind]

namespace Document

def requests (document : Document) : List Request := document.operations.map Request.ofOperation

def planOf (document : Document) (options : PlanOptions) (closure : Closure) : Plan :=
  { dtos := closure.dtos
    validators := validatorsOf options.validators closure.dtos
    requests := document.requests
    handlers := document.requests.map Handler.ofRequest }

/-- All that a plan asks of a document: request names that differ, a closure, and file stems that
differ within each list of artifacts. -/
structure Plannable (document : Document) (options : PlanOptions) (closure : Closure) : Prop where
  requestNames : (document.requests.map (·.name)).Nodup
  built : document.closure options.includeAllModels = .ok closure
  dtoStems : DistinctStems ((document.planOf options closure).dtos.map (·.name))
  validatorStems : DistinctStems ((document.planOf options closure).validators.map (·.name))
  requestStems : DistinctStems ((document.planOf options closure).requests.map (·.name))
  handlerStems : DistinctStems ((document.planOf options closure).handlers.map (·.name))

theorem plan_eq_ok_iff (document : Document) (options : PlanOptions) (plan : Plan) :
    document.plan options = .ok plan ↔
      ∃ closure, document.Plannable options closure ∧ document.planOf options closure = plan := by
  rw [Document.plan]
  simp only [check_bind_ok_iff]
  rw [bind_ok_iff]
  simp only [check_bind_ok_iff, distinct_ok_iff, distinctStems_ok_iff, pure, Except.pure,
    Except.ok.injEq]
  have keys : (document.requests.map fun request => (request.name, request.operationId)).map
      Prod.fst = document.requests.map (·.name) := by
    simp
  constructor
  · rintro ⟨names, closure, built, dtos, validators, requests, handlers, same⟩
    exact ⟨closure, ⟨keys ▸ names, built, dtos, validators, requests, handlers⟩, same⟩
  · rintro ⟨closure, plannable, same⟩
    exact ⟨keys ▸ plannable.requestNames, closure, plannable.built, plannable.dtoStems,
      plannable.validatorStems, plannable.requestStems, plannable.handlerStems, same⟩

theorem plan_error_of_requests {document : Document} {error : GenerationError}
    (failed : distinct (document.requests.map fun request => (request.name, request.operationId)) =
      .error error) (options : PlanOptions) : document.plan options = .error error := by
  rw [Document.plan, bind_error_iff]
  exact .inl failed

theorem plan_error_of_same_name {document : Document} {front back : List Operation}
    {earlier later : Operation} (operations : document.operations = front ++ later :: back)
    (isEarlier : earlier ∈ front)
    (same : (Request.ofOperation earlier).name = (Request.ofOperation later).name)
    (options : PlanOptions) :
    ∃ name first second, document.plan options = .error (.namingCollision name first second) ∧
      ((front.map fun operation => (Request.ofOperation operation).name).Nodup →
        name = (Request.ofOperation later).name ∧
          first = earlier.operationId ∧ second = later.operationId) := by
  let entry (operation : Operation) : String × String :=
    ((Request.ofOperation operation).name, operation.operationId)
  have requests : document.requests.map (fun request => (request.name, request.operationId)) =
      front.map entry ++ entry later :: back.map entry := by
    simp [Document.requests, operations, Function.comp_def, Request.ofOperation, entry]
  have there : ((Request.ofOperation later).name, earlier.operationId) ∈ front.map entry :=
    List.mem_map.mpr ⟨earlier, isEarlier, by rw [← same]⟩
  by_cases fresh : (front.map fun operation => (Request.ofOperation operation).name).Nodup
  · have keys : ((front.map entry).map Prod.fst).Nodup := by
      rw [List.map_map]
      exact fresh
    have failed : distinct (front.map entry ++ entry later :: back.map entry) =
        .error (.namingCollision _ earlier.operationId later.operationId) :=
      distinct_first keys there _
    rw [← requests] at failed
    exact ⟨_, _, _, plan_error_of_requests failed options, fun _ => ⟨rfl, rfl, rfl⟩⟩
  · have repeated : ¬((front.map entry ++ entry later :: back.map entry).map Prod.fst).Nodup := by
      intro distinct
      rw [List.map_append, List.map_map] at distinct
      exact fresh (List.nodup_append.mp distinct).1
    obtain ⟨name, first, second, failed⟩ := distinct_error_of_not_nodup repeated
    rw [← requests] at failed
    exact ⟨name, first, second, plan_error_of_requests failed options, fun apart =>
      absurd apart fresh⟩

theorem clinic_planned : ∃ plan, clinic.plan ⟨true, false⟩ = .ok plan := by
  have planned : (clinic.plan ⟨true, false⟩).isOk = true := by decide +kernel
  cases outcome : clinic.plan ⟨true, false⟩ with
  | error error => simp [outcome, Except.isOk, Except.toBool] at planned
  | ok plan => exact ⟨plan, rfl⟩

end Document

end ApiContracts
