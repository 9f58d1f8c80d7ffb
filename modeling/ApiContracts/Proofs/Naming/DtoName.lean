import ApiContracts.Naming

/-!
Laws of DTO names: what carries the suffix, and when two names derive the same DTO name.
-/

namespace ApiContracts

namespace Naming

theorem isDtoName_iff (name : String) :
    isDtoName name = true ↔ ∃ stem, stem ≠ "" ∧ stem ++ "Dto" = name := by
  simp only [isDtoName, Bool.and_eq_true, Text.endsIn_iff, bne_iff_ne, ne_eq]
  constructor
  · rintro ⟨⟨stem, split⟩, longer⟩
    refine ⟨String.ofList stem, ?_, ?_⟩
    · rintro empty
      have noChars : stem = [] := by simpa using congrArg String.toList empty
      exact longer (by simpa [noChars] using split.symm)
    · apply String.toList_inj.mp
      simpa [dtoSuffix] using split
  · rintro ⟨stem, nonempty, rfl⟩
    refine ⟨⟨stem.toList, by simp [dtoSuffix]⟩, ?_⟩
    intro bare
    have noChars : stem.toList = [] := by simpa [dtoSuffix] using bare
    exact nonempty (String.toList_eq_nil_iff.mp noChars)

theorem ne_empty_of_isDtoName {name : String} (suffixed : isDtoName name = true) : name ≠ "" := by
  rintro rfl
  exact absurd suffixed (by decide)

theorem dtoName_of_isDtoName {name : String} (suffixed : isDtoName name = true) :
    dtoName name = name := by
  rw [dtoName, if_pos suffixed]

theorem dtoName_of_plain {name : String} (plain : isDtoName name = false) :
    dtoName name = name ++ "Dto" := by
  simp [dtoName, plain]

theorem append_dto_inj {first second : String} (same : first ++ "Dto" = second ++ "Dto") :
    first = second := by
  apply String.toList_inj.mp
  simpa using congrArg String.toList same

theorem eq_or_suffixed_of_dtoName_eq {first second : String}
    (same : dtoName first = dtoName second) :
    first = second ∨
      (isDtoName second = false ∧ isDtoName first = true ∧ first = second ++ "Dto") ∨
      (isDtoName first = false ∧ isDtoName second = true ∧ second = first ++ "Dto") := by
  cases firstSuffixed : isDtoName first <;> cases secondSuffixed : isDtoName second <;>
    simp only [dtoName, firstSuffixed, secondSuffixed, Bool.false_eq_true, ↓reduceIte] at same
  · exact .inl (append_dto_inj same)
  · exact .inr (.inr ⟨rfl, rfl, same.symm⟩)
  · exact .inr (.inl ⟨rfl, rfl, same⟩)
  · exact .inl same

theorem dtoName_ne_empty (name : String) : dtoName name ≠ "" := by
  rw [dtoName]
  split
  next suffixed => exact ne_empty_of_isDtoName suffixed
  next => simp

theorem dtoName_getLast? (name : String) : (dtoName name).toList.getLast? = some 'o' := by
  have ending : "Dto".toList = ['D', 't', 'o'] := rfl
  cases suffixed : isDtoName name with
  | true =>
      obtain ⟨stem, _, rfl⟩ := (isDtoName_iff name).mp suffixed
      rw [dtoName_of_isDtoName suffixed, String.toList_append, ending]
      simp
  | false =>
      rw [dtoName_of_plain suffixed, String.toList_append, ending]
      simp

theorem dtoName_eq_self_iff (name : String) : dtoName name = name ↔ isDtoName name = true := by
  constructor
  · intro same
    rw [← Bool.not_eq_false]
    intro plain
    rw [dtoName_of_plain plain] at same
    simpa using congrArg String.length same
  · exact dtoName_of_isDtoName

/-- With the suffix behind it every name carries the suffix, except the empty one: what it becomes
is the suffix alone. -/
theorem isDtoName_dtoName_iff (name : String) : isDtoName (dtoName name) = true ↔ name ≠ "" := by
  cases suffixed : isDtoName name with
  | true =>
      rw [dtoName_of_isDtoName suffixed]
      exact iff_of_true suffixed (ne_empty_of_isDtoName suffixed)
  | false =>
      rw [dtoName_of_plain suffixed, isDtoName_iff]
      constructor
      · rintro ⟨stem, nonempty, same⟩
        rwa [append_dto_inj same] at nonempty
      · intro nonempty
        exact ⟨name, nonempty, rfl⟩

end Naming

end ApiContracts
