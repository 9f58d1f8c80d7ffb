import ApiContracts.OpenApi.Mapping
import Mathlib.Data.List.Induction
import Mathlib.Data.List.Nodup

/-!
Lists of entries with keys. An entry that is put down takes the place of the one of its key, or
stands behind all others. So keys keep the order in which they first came, and the last entry of a
key stays.
-/

namespace ApiContracts

variable {α κ : Type} [DecidableEq κ] {key : α → κ}

theorem mem_of_lookup {entries : List (κ × α)} {key : κ} {entry : α}
    (found : entries.lookup key = some entry) : (key, entry) ∈ entries := by
  obtain ⟨before, after, split, _⟩ := List.lookup_eq_some_iff.mp found
  simp [split]

def putBy (key : α → κ) (entry : α) : List α → List α
  | [] => [entry]
  | first :: rest =>
    if key first = key entry then entry :: rest else first :: putBy key entry rest

def putAllBy (key : α → κ) (added found : List α) : List α :=
  added.foldl (fun found entry => putBy key entry found) found

theorem putAllBy_append (first second found : List α) :
    putAllBy key (first ++ second) found = putAllBy key second (putAllBy key first found) :=
  List.foldl_append

theorem putAllBy_snoc (added : List α) (entry : α) (found : List α) :
    putAllBy key (added ++ [entry]) found = putBy key entry (putAllBy key added found) :=
  putAllBy_append ..

theorem putBy_keys (entry : α) (found : List α) :
    (putBy key entry found).map key =
      if key entry ∈ found.map key then found.map key else found.map key ++ [key entry] := by
  induction found with
  | nil => rfl
  | cons first rest ih =>
      rw [putBy]
      by_cases same : key first = key entry
      · simp [same]
      · have other : key entry ≠ key first := Ne.symm same
        simp only [same, ↓reduceIte, List.map_cons, ih, List.mem_cons, other, false_or]
        split <;> rfl

theorem mem_putBy_keys (entry : α) (found : List α) (k : κ) :
    k ∈ (putBy key entry found).map key ↔ k = key entry ∨ k ∈ found.map key := by
  rw [putBy_keys]
  split
  next there =>
      rw [or_iff_right_of_imp]
      rintro rfl
      exact there
  next => rw [List.mem_append, List.mem_singleton, or_comm]

theorem putBy_keys_nodup (entry : α) {found : List α} (distinct : (found.map key).Nodup) :
    ((putBy key entry found).map key).Nodup := by
  rw [putBy_keys]
  split
  · exact distinct
  next fresh => exact List.nodup_append.mpr ⟨distinct, by simp, by simpa using fresh⟩

theorem self_mem_putBy (entry : α) (found : List α) : entry ∈ putBy key entry found := by
  induction found with
  | nil => exact List.mem_singleton_self entry
  | cons first rest ih =>
      rw [putBy]
      split
      · exact List.mem_cons_self
      · exact List.mem_cons_of_mem _ ih

theorem mem_putBy_of_other {entry other : α} {found : List α} (member : other ∈ found)
    (different : key entry ≠ key other) : other ∈ putBy key entry found := by
  induction found with
  | nil => simp at member
  | cons first rest ih =>
      rw [putBy]
      rcases List.mem_cons.mp member with rfl | inRest
      · rw [if_neg (Ne.symm different)]
        exact List.mem_cons_self
      · split
        · exact List.mem_cons_of_mem _ inRest
        · exact List.mem_cons_of_mem _ (ih inRest)

theorem mem_putBy {entry other : α} {found : List α} (member : other ∈ putBy key entry found) :
    other = entry ∨ other ∈ found := by
  induction found with
  | nil => exact .inl (by simpa [putBy] using member)
  | cons first rest ih =>
      rw [putBy] at member
      split at member
      · exact (List.mem_cons.mp member).imp_right (List.mem_cons_of_mem _)
      · rcases List.mem_cons.mp member with rfl | inRest
        · exact .inr List.mem_cons_self
        · exact (ih inRest).imp_right (List.mem_cons_of_mem _)

theorem mem_putBy_distinct {entry other : α} {found : List α}
    (distinct : (found.map key).Nodup) (member : other ∈ putBy key entry found) :
    other = entry ∨ other ∈ found ∧ key other ≠ key entry := by
  induction found with
  | nil => exact .inl (by simpa [putBy] using member)
  | cons first rest ih =>
      obtain ⟨fresh, later⟩ := List.nodup_cons.mp distinct
      rw [putBy] at member
      split at member
      next same =>
          rcases List.mem_cons.mp member with here | inRest
          · exact .inl here
          · refine .inr ⟨List.mem_cons_of_mem _ inRest, ?_⟩
            intro taken
            exact fresh (List.mem_map.mpr ⟨other, inRest, taken.trans same.symm⟩)
      next different =>
          rcases List.mem_cons.mp member with rfl | inRest
          · exact .inr ⟨List.mem_cons_self, different⟩
          · exact (ih later inRest).imp_right (.imp_left (List.mem_cons_of_mem _))

theorem putAllBy_keys_nodup {added found : List α} (distinct : (found.map key).Nodup) :
    ((putAllBy key added found).map key).Nodup := by
  induction added generalizing found with
  | nil => exact distinct
  | cons entry rest ih => exact ih (putBy_keys_nodup entry distinct)

theorem mem_putAllBy_keys (added found : List α) (k : κ) :
    k ∈ (putAllBy key added found).map key ↔ k ∈ added.map key ∨ k ∈ found.map key := by
  induction added using List.reverseRecOn with
  | nil => simp [putAllBy]
  | append_singleton added entry ih =>
      rw [putAllBy_snoc, mem_putBy_keys, ih, List.map_append, List.mem_append, List.map_singleton,
        List.mem_singleton, or_comm (b := k = key entry), or_assoc]

theorem mem_putAllBy {added found : List α} {entry : α}
    (member : entry ∈ putAllBy key added found) : entry ∈ added ∨ entry ∈ found := by
  induction added using List.reverseRecOn with
  | nil => exact .inr member
  | append_singleton added last ih =>
      rw [putAllBy_snoc] at member
      rcases mem_putBy member with rfl | earlier
      · exact .inl (by simp)
      · exact (ih earlier).imp_left (List.mem_append_left _)

theorem mem_putAllBy_of_other {added found : List α} {entry : α} (member : entry ∈ found)
    (different : ∀ other ∈ added, key other ≠ key entry) : entry ∈ putAllBy key added found := by
  induction added generalizing found with
  | nil => exact member
  | cons other rest ih =>
      obtain ⟨here, later⟩ := List.forall_mem_cons.mp different
      exact ih (mem_putBy_of_other member here) later

theorem mem_putAllBy_of_last {before after found : List α} {entry : α}
    (last : ∀ later ∈ after, key later ≠ key entry) :
    entry ∈ putAllBy key (before ++ entry :: after) found := by
  rw [List.append_cons, putAllBy_append, putAllBy_snoc]
  exact mem_putAllBy_of_other (self_mem_putBy entry _) last

theorem last_of_mem_putAllBy {added found : List α} {entry : α} (distinct : (found.map key).Nodup)
    (member : entry ∈ putAllBy key added found) :
    (∃ before after, added = before ++ entry :: after ∧ ∀ later ∈ after, key later ≠ key entry) ∨
      entry ∈ found ∧ ∀ later ∈ added, key later ≠ key entry := by
  induction added using List.reverseRecOn with
  | nil => exact .inr ⟨member, by simp⟩
  | append_singleton added last ih =>
      rw [putAllBy_snoc] at member
      rcases mem_putBy_distinct (putAllBy_keys_nodup distinct) member with rfl | ⟨earlier, different⟩
      · exact .inl ⟨added, [], rfl, by simp⟩
      · have others {entries : List α} (before : ∀ later ∈ entries, key later ≠ key entry) :
            ∀ later ∈ entries ++ [last], key later ≠ key entry := by
          intro later isLater
          rcases List.mem_append.mp isLater with inEntries | isLast
          · exact before later inEntries
          · rw [List.mem_singleton.mp isLast]
            exact Ne.symm different
        rcases ih earlier with ⟨before, after, split, notBehind⟩ | ⟨there, notBehind⟩
        · exact .inl ⟨before, after ++ [last], by simp [split], others notBehind⟩
        · exact .inr ⟨there, others notBehind⟩

def newKeys (known keys : List κ) : List κ := (keys.filter (· ∉ known)).eraseDups

theorem newKeys_snoc (known keys : List κ) (k : κ) :
    newKeys known (keys ++ [k]) =
      newKeys known keys ++ if k ∈ keys ∨ k ∈ known then [] else [k] := by
  rw [newKeys, newKeys, List.filter_append, List.eraseDups_append]
  by_cases old : k ∈ known
  · simp [old]
  · by_cases repeated : k ∈ keys
    · simp [old, repeated, List.removeAll]
    · simp [old, repeated, List.removeAll, List.eraseDups_cons]

theorem putAllBy_keys (added found : List α) :
    (putAllBy key added found).map key =
      found.map key ++ newKeys (found.map key) (added.map key) := by
  induction added using List.reverseRecOn with
  | nil => simp [putAllBy, newKeys]
  | append_singleton added entry ih =>
      have put : key entry ∈ (putAllBy key added found).map key ↔ _ :=
        mem_putAllBy_keys added found (key entry)
      rw [putAllBy_snoc, putBy_keys, List.map_append, List.map_singleton, newKeys_snoc,
        ← List.append_assoc, ← ih]
      split
      next there => rw [if_pos (put.mp there), List.append_nil]
      next fresh => rw [if_neg (mt put.mpr fresh)]

theorem putAllBy_keys_ordered (added : List α) :
    ((putAllBy key added []).map key).Pairwise fun earlier later =>
      (added.map key).idxOf earlier < (added.map key).idxOf later := by
  -- Another entry at the end leaves the first places of all keys before it.
  induction added using List.reverseRecOn with
  | nil => exact .nil
  | append_singleton added entry ih =>
      have put (k : κ) : k ∈ (putAllBy key added []).map key ↔ k ∈ added.map key := by
        rw [mem_putAllBy_keys]
        simp
      have kept {k : κ} (there : k ∈ (putAllBy key added []).map key) :
          ((added ++ [entry]).map key).idxOf k = (added.map key).idxOf k := by
        rw [List.map_append, List.idxOf_append_of_mem ((put k).mp there)]
      have before : ((putAllBy key added []).map key).Pairwise fun earlier later =>
          ((added ++ [entry]).map key).idxOf earlier <
            ((added ++ [entry]).map key).idxOf later := by
        refine ih.imp_of_mem ?_
        intro earlier later isEarlier isLater less
        rwa [kept isEarlier, kept isLater]
      rw [putAllBy_snoc, putBy_keys]
      split
      next => exact before
      next fresh =>
          refine List.pairwise_append.mpr ⟨before, List.pairwise_singleton .., ?_⟩
          intro earlier there last isLast
          obtain rfl := List.mem_singleton.mp isLast
          rw [kept there, List.map_append, List.idxOf_append_of_notMem (mt (put _).mpr fresh)]
          have bound := List.idxOf_lt_length_of_mem ((put earlier).mp there)
          omega

namespace OpenApi

theorem putProperty_eq (property : Property) (found : List Property) :
    putProperty property found = putBy (·.name) property found := by
  induction found with
  | nil => rfl
  | cons first rest ih => simp [putProperty, putBy, ih]

def parameterKey (parameter : Parameter) : String × ParameterLocation :=
  (parameter.name, parameter.location)

theorem putParameter_eq (parameter : Parameter) (found : List Parameter) :
    putParameter parameter found = putBy parameterKey parameter found := by
  induction found with
  | nil => rfl
  | cons first rest ih => simp [putParameter, putBy, parameterKey, ih]

theorem mergeParameters_eq (inherited own : List Parameter) :
    mergeParameters inherited own = putAllBy parameterKey own inherited := by
  simp only [mergeParameters, putParameter_eq, putAllBy]

end OpenApi

end ApiContracts
