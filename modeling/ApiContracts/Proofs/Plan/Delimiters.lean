import ApiContracts.Contract.Dto
import Mathlib.Data.List.DropRight

/-!
Delimiters of patterns. The blanks around a pattern go first and then one pair of delimiters, so
that what is left is the pattern without its delimiters just if there are no such blanks.
-/

namespace ApiContracts

namespace Text

structure Tight (text : List Char) : Prop where
  first : ∀ c ∈ text.head?, isBlank c = false
  last : ∀ c ∈ text.getLast?, isBlank c = false

instance (text : List Char) : Decidable (Tight text) :=
  decidable_of_iff (text.head?.all (!isBlank ·) = true ∧ text.getLast?.all (!isBlank ·) = true) <| by
    simp only [Option.all_eq_true, Bool.not_eq_true']
    exact ⟨fun ⟨first, last⟩ => ⟨first, last⟩, fun tight => ⟨tight.first, tight.last⟩⟩

structure Trims (text inner : List Char) : Prop where
  split : ∃ front back, text = front ++ inner ++ back ∧ ∀ c ∈ front ++ back, isBlank c = true
  tight : Tight inner

theorem head?_dropWhile_isBlank {text : List Char} {c : Char}
    (first : (text.dropWhile isBlank).head? = some c) : isBlank c = false := by
  simpa [first] using List.head?_dropWhile_not isBlank text

theorem trimStart_eq_self {text : List Char} (first : ∀ c ∈ text.head?, isBlank c = false) :
    trimStart text = text := by
  cases text with
  | nil => rfl
  | cons c rest => exact List.dropWhile_cons_of_neg (by simp [first c rfl])

theorem trimEnd_eq_self {text : List Char} (last : ∀ c ∈ text.getLast?, isBlank c = false) :
    trimEnd text = text := by
  have turned : text.reverse.dropWhile isBlank = text.reverse := by
    apply trimStart_eq_self
    rwa [List.head?_reverse]
  rw [trimEnd, dropEndWhile, turned, List.reverse_reverse]

theorem trimEnd_append {back : List Char} (blank : ∀ c ∈ back, isBlank c = true)
    (text : List Char) : trimEnd (text ++ back) = trimEnd text := by
  rw [trimEnd, dropEndWhile, List.reverse_append,
    List.dropWhile_append_of_pos fun c member => blank c (List.mem_reverse.mp member)]
  rfl

theorem trims_trim (text : List Char) : Trims text (trim text) := by
  have ending : trim text ++ (trimStart text).rtakeWhile isBlank = trimStart text :=
    List.rdropWhile_append_rtakeWhile
  have beginning : text.takeWhile isBlank ++ trimStart text = text :=
    List.takeWhile_append_dropWhile
  refine ⟨⟨text.takeWhile isBlank, (trimStart text).rtakeWhile isBlank, ?_, ?_⟩, ?_, ?_⟩
  · rw [List.append_assoc, ending, beginning]
  · intro c member
    rcases List.mem_append.mp member with inFront | inBack
    · exact List.mem_takeWhile_imp inFront
    · exact List.mem_rtakeWhile_imp inBack
  · intro c isFirst
    have first : (trimStart text).head? = some c := by
      rw [← ending, List.head?_append, Option.mem_def.mp isFirst, Option.some_or]
    exact head?_dropWhile_isBlank first
  · intro c isLast
    rw [trim, trimEnd, dropEndWhile, List.getLast?_reverse] at isLast
    exact head?_dropWhile_isBlank isLast

theorem Trims.trim_eq {text inner : List Char} (trims : Trims text inner) : trim text = inner := by
  obtain ⟨⟨front, back, rfl, blank⟩, tight⟩ := trims
  obtain ⟨blankFront, blankBack⟩ := List.forall_mem_append.mp blank
  rw [List.append_assoc, trim, trimStart, List.dropWhile_append_of_pos blankFront, ← trimStart]
  cases inner with
  | nil =>
      have gone : trimStart back = [] := List.dropWhile_eq_nil_iff.mpr blankBack
      rw [List.nil_append, gone]
      rfl
  | cons c rest =>
      -- A text that is not empty keeps its first character with anything behind it.
      have kept : ∀ d ∈ (c :: rest ++ back).head?, isBlank d = false := tight.first
      rw [trimStart_eq_self kept, trimEnd_append blankBack, trimEnd_eq_self tight.last]

theorem trim_eq_self_iff (text : List Char) : trim text = text ↔ Tight text := by
  constructor
  · intro same
    exact same ▸ (trims_trim text).tight
  · intro tight
    exact Trims.trim_eq ⟨⟨[], [], by simp, by simp⟩, tight⟩

end Text

open Text

/-- What a pattern is without its delimiters: what stands between two equal ones that it begins and
ends with, or else the pattern itself. -/
inductive Undelimits : List Char → List Char → Prop
  | wrapped {delimiter inner} : delimiter ∈ patternDelimiters →
      Undelimits (delimiter :: (inner ++ [delimiter])) inner
  | verbatim {text} :
      (∀ delimiter ∈ patternDelimiters, ∀ inner, text ≠ delimiter :: (inner ++ [delimiter])) →
      Undelimits text text

theorem Undelimits.unique {text first second : List Char} (one : Undelimits text first)
    (other : Undelimits text second) : first = second := by
  cases one with
  | @wrapped delimiter _ isDelimiter =>
      generalize whole : delimiter :: (first ++ [delimiter]) = text at other
      cases other with
      | wrapped _ =>
          obtain ⟨rfl, inside⟩ := List.cons.inj whole
          exact List.append_cancel_right inside
      | verbatim apart => exact absurd whole.symm (apart delimiter isDelimiter first)
  | verbatim apart =>
      cases other with
      | wrapped isDelimiter => exact absurd rfl (apart _ isDelimiter second)
      | verbatim _ => rfl

theorem Undelimits.length_le {text result : List Char} (undelimits : Undelimits text result) :
    result.length ≤ text.length := by
  cases undelimits with
  | wrapped _ =>
      simp only [List.length_cons, List.length_append]
      omega
  | verbatim _ => exact Nat.le_refl _

theorem tight_wrapped {delimiter : Char} (isDelimiter : delimiter ∈ patternDelimiters)
    (inner : List Char) : Tight (delimiter :: (inner ++ [delimiter])) := by
  have noBlanks : patternDelimiters.all (!isBlank ·) = true := by decide
  have notBlank : isBlank delimiter = false := by
    simpa using List.all_eq_true.mp noBlanks delimiter isDelimiter
  constructor
  · rintro _ ⟨⟩
    exact notBlank
  · intro c isLast
    rw [← List.cons_append, List.getLast?_concat] at isLast
    exact Option.some.inj isLast ▸ notBlank

theorem undelimits_stripDelimiters (pattern : String) :
    Undelimits (trim pattern.toList) (stripDelimiters pattern).toList := by
  rw [stripDelimiters]
  cases trim pattern.toList with
  | nil => exact .verbatim (by simp)
  | cons first rest =>
      dsimp only
      split
      next ends =>
          rw [Bool.and_eq_true, List.contains_iff_mem, beq_iff_eq] at ends
          obtain ⟨inner, rfl⟩ := List.getLast?_eq_some_iff.mp ends.2
          rw [String.toList_ofList, List.dropLast_concat]
          exact .wrapped ends.1
      next other =>
          rw [String.toList_ofList]
          refine .verbatim ?_
          rintro delimiter isDelimiter inner same
          obtain ⟨rfl, rfl⟩ := List.cons.inj same
          simp [isDelimiter] at other

/-- What is left of a pattern: what it is without its delimiters once the blanks around it are gone.
It is the pattern itself without its delimiters just if there are none. -/
structure Strips (pattern text : String) : Prop where
  undelimits : ∃ inner, Trims pattern.toList inner ∧ Undelimits inner text.toList
  exact_iff : Undelimits pattern.toList text.toList ↔ Tight pattern.toList

theorem strips_stripDelimiters (pattern : String) : Strips pattern (stripDelimiters pattern) := by
  have undelimits := undelimits_stripDelimiters pattern
  have trims := trims_trim pattern.toList
  refine ⟨⟨_, trims, undelimits⟩, ?_, ?_⟩
  · intro exact
    generalize stripped : (stripDelimiters pattern).toList = text at exact undelimits
    generalize pattern.toList = given at *
    cases exact with
    | wrapped isDelimiter => exact tight_wrapped isDelimiter _
    | verbatim _ =>
        -- Nothing is gone, so no blanks are.
        obtain ⟨front, back, split, _⟩ := trims.split
        have inside : trim text <:+: text := ⟨front, back, split.symm⟩
        exact (trim_eq_self_iff text).mp
          (inside.sublist.eq_of_length_le undelimits.length_le)
  · intro tight
    rwa [(trim_eq_self_iff _).mpr tight] at undelimits

theorem strips_iff (pattern text : String) :
    Strips pattern text ↔ stripDelimiters pattern = text := by
  constructor
  · intro strips
    obtain ⟨inner, trims, undelimits⟩ := strips.undelimits
    rw [← trims.trim_eq] at undelimits
    exact String.toList_inj.mp ((undelimits_stripDelimiters pattern).unique undelimits)
  · rintro rfl
    exact strips_stripDelimiters pattern

end ApiContracts
