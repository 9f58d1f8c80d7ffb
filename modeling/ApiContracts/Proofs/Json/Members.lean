import ApiContracts.Json.Basic
import Mathlib.Data.List.Induction
import Mathlib.Data.List.Nodup

/-!
What an object has under a key. Of several members with one key the last is kept, so an object is
sure to have each of the members that it is made of only if their keys are different.
-/

namespace ApiContracts

namespace Json

variable {α : Type}

theorem lookup_cons_eq (first : String × α) (rest : List (String × α)) (key : String) :
    (first :: rest).lookup key = if key = first.1 then some first.2 else rest.lookup key := by
  rw [List.lookup_cons]
  split
  next found => rw [if_pos (beq_iff_eq.mp found)]
  next missed => rw [if_neg (beq_eq_false_iff_ne.mp missed)]

theorem lookup_insertMember (key : String) (value : α) (members : List (String × α))
    (other : String) :
    (insertMember key value members).lookup other =
      if other = key then some value else members.lookup other := by
  induction members with
  | nil => rw [insertMember, lookup_cons_eq]
  | cons member rest ih =>
      rw [insertMember]
      by_cases replaced : key = member.1
      · subst replaced
        rw [if_pos (beq_self_eq_true _), lookup_cons_eq, lookup_cons_eq]
        by_cases same : other = member.1 <;> simp [same]
      · rw [if_neg (by simpa using replaced)]
        split
        · rw [lookup_cons_eq]
        · rw [lookup_cons_eq, lookup_cons_eq, ih]
          by_cases here : other = member.1
          · rw [if_pos here, if_pos here, if_neg]
            exact fun same => replaced (same.symm.trans here)
          · rw [if_neg here, if_neg here]

theorem member?_ofMembers (members : List (String × Json)) (key : String) :
    (ofMembers members).member? key = members.reverse.lookup key := by
  change (sortMembers members).lookup key = members.reverse.lookup key
  induction members using List.reverseRecOn with
  | nil => rfl
  | append_singleton front last ih =>
      rw [sortMembers] at ih
      rw [sortMembers, List.foldl_append, List.foldl_cons, List.foldl_nil, lookup_insertMember,
        List.reverse_concat, lookup_cons_eq, ih]

/-! ### Members in order -/

def Ascending (members : List (String × α)) : Prop := members.Pairwise (·.1 < ·.1)

theorem mem_insertMember {key : String} {value : α} {members : List (String × α)}
    {member : String × α} (isMember : member ∈ insertMember key value members) :
    member = (key, value) ∨ member ∈ members := by
  induction members with
  | nil => exact .inl (List.mem_singleton.mp isMember)
  | cons first rest ih =>
      rw [insertMember] at isMember
      split at isMember
      · exact (List.mem_cons.mp isMember).imp_right (List.mem_cons_of_mem _)
      · split at isMember
        · exact List.mem_cons.mp isMember
        · rcases List.mem_cons.mp isMember with rfl | behind
          · exact .inr List.mem_cons_self
          · exact (ih behind).imp_right (List.mem_cons_of_mem _)

theorem Ascending.insertMember {members : List (String × α)} (ascending : Ascending members)
    (key : String) (value : α) : Ascending (Json.insertMember key value members) := by
  induction members with
  | nil => exact List.pairwise_singleton _ _
  | cons first rest ih =>
      obtain ⟨above, later⟩ := List.pairwise_cons.mp ascending
      rw [Json.insertMember]
      split
      next same =>
          rw [beq_iff_eq.mp same]
          exact List.pairwise_cons.mpr ⟨above, later⟩
      next other =>
          split
          next below =>
              refine List.pairwise_cons.mpr ⟨?_, ascending⟩
              rintro member (_ | ⟨_, behind⟩)
              · exact below
              · exact String.lt_trans below (above member behind)
          next notBelow =>
              refine List.pairwise_cons.mpr ⟨?_, ih later⟩
              intro member isMember
              rcases mem_insertMember isMember with rfl | behind
              · refine Decidable.byContradiction fun notAbove => other ?_
                exact beq_iff_eq.mpr
                  (String.le_antisymm (String.not_lt.mp notAbove) (String.not_lt.mp notBelow))
              · exact above member behind

theorem ascending_sortMembers (members : List (String × α)) : Ascending (sortMembers members) := by
  induction members using List.reverseRecOn with
  | nil => exact List.Pairwise.nil
  | append_singleton front last ih =>
      rw [sortMembers] at ih
      rw [sortMembers, List.foldl_append]
      exact ih.insertMember _ _

theorem filterMap_insertMember {β : Type} {f : String × α → Option β} {key : String} {value : α}
    {members : List (String × α)} (nothing : f (key, value) = none)
    (before : ∀ old, (key, old) ∈ members → f (key, old) = none) :
    (insertMember key value members).filterMap f = members.filterMap f := by
  induction members with
  | nil => rw [insertMember, List.filterMap_cons_none nothing]
  | cons first rest ih =>
      obtain ⟨name, kept⟩ := first
      rw [insertMember]
      split
      next same =>
          obtain rfl := beq_iff_eq.mp same
          rw [List.filterMap_cons_none nothing,
            List.filterMap_cons_none (before kept List.mem_cons_self)]
      next =>
          split
          · rw [List.filterMap_cons_none nothing]
          · rw [List.filterMap_cons, List.filterMap_cons,
              ih fun old there => before old (List.mem_cons_of_mem _ there)]

/-! ### Members that are given -/

def ofGiven (given : List (String × Option Json)) : Json :=
  ofMembers (given.filterMap fun (key, value) => value.map (key, ·))

theorem lookup_given {given : List (String × Option Json)} (distinct : (given.map Prod.fst).Nodup)
    {key : String} {value : Option Json} (member : (key, value) ∈ given) :
    (given.filterMap fun (key, value) => value.map (key, ·)).lookup key = value := by
  induction given with
  | nil => simp at member
  | cons first rest ih =>
      obtain ⟨name, content⟩ := first
      rw [List.map_cons, List.nodup_cons] at distinct
      obtain ⟨fresh, later⟩ := distinct
      -- The key of the first is none of the rest, whether it has a value or not.
      have missing : (rest.filterMap fun (key, value) => value.map (key, ·)).lookup name = none := by
        rw [List.lookup_eq_none_iff]
        rintro ⟨other, json⟩ there
        obtain ⟨⟨source, given⟩, inRest, made⟩ := List.mem_filterMap.mp there
        obtain ⟨_, _, same⟩ := Option.map_eq_some_iff.mp made
        obtain ⟨rfl, _⟩ := Prod.mk.inj same
        rw [bne_iff_ne]
        rintro rfl
        exact fresh (List.mem_map.mpr ⟨_, inRest, rfl⟩)
      rcases List.mem_cons.mp member with here | behind
      · obtain ⟨rfl, rfl⟩ := Prod.mk.inj here
        cases value with
        | none => exact missing
        | some json => exact List.lookup_cons_self
      · have different : key ≠ name := by
          rintro rfl
          exact fresh (List.mem_map.mpr ⟨_, behind, rfl⟩)
        cases content with
        | none => exact ih later behind
        | some json =>
            refine (lookup_cons_eq _ _ _).trans ?_
            rw [if_neg different]
            exact ih later behind

theorem member?_ofGiven {given : List (String × Option Json)}
    (distinct : (given.map Prod.fst).Nodup) {key : String} {value : Option Json}
    (member : (key, value) ∈ given) : (ofGiven given).member? key = value := by
  rw [ofGiven, member?_ofMembers, ← List.filterMap_reverse]
  apply lookup_given
  · rw [List.map_reverse, List.nodup_reverse]
    exact distinct
  · exact List.mem_reverse.mpr member

/-- Every value is found by its name, whatever the values, just if the names are different. -/
theorem names_determine_iff (names : List String) :
    (∀ values : List (Option Json), values.length = names.length →
      names.map (ofGiven (names.zip values)).member? = values) ↔ names.Nodup := by
  constructor
  · intro determines
    -- Values that are all different tell the names apart.
    let numbers := (List.range names.length).map fun index : Nat => some (integer index)
    have found := determines numbers (by simp [numbers])
    have different : numbers.Nodup := by
      apply List.nodup_range.map
      intro first second same
      exact Int.ofNat.inj (integer.inj (Option.some.inj same))
    rw [← found] at different
    exact different.of_map
  · intro distinct values fits
    have keys : (names.zip values).map Prod.fst = names :=
      List.map_fst_zip (Nat.le_of_eq fits.symm)
    apply List.ext_getElem (by simp [fits])
    intro index inNames inValues
    rw [List.getElem_map]
    apply member?_ofGiven (keys.symm ▸ distinct)
    rw [List.mem_iff_getElem]
    refine ⟨index, by simpa [fits] using inValues, by simp⟩

end Json

end ApiContracts
