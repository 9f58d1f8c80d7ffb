import ApiContracts.Contract.Source
import ApiContracts.Proofs.Path.Pieces
import ApiContracts.Proofs.Text.Identifier

/-!
When two wire names get the same field identifier. The identifier tells the words of the name, and
nothing else of it: neither the case of a letter, nor what stood between two words, nor a character
beyond ASCII.
-/

namespace ApiContracts

open Text

namespace Text

theorem lower_letters {word : List Char} (letters : ∀ c ∈ word, isAsciiAlphanumeric c = true) :
    ∀ c ∈ lower word, isAsciiAlphanumeric c = true := by
  have ascii : ∀ c ∈ word, c.toNat < 128 := fun c member => alphanumeric_ascii (letters c member)
  rw [lower, lowerAfter_ascii ascii, List.forall_mem_map]
  intro c member
  exact of_asciiCodes (fun c => isAsciiAlphanumeric c = true → isAsciiAlphanumeric c.toLower = true)
    (by decide +kernel) (ascii c member) (letters c member)

theorem words_letters {text : List Char} (continues : ∀ c ∈ text, continuesIdentifier c = true) :
    ∀ word ∈ words text, ∀ c ∈ word, isAsciiAlphanumeric c = true := by
  intro word isWord c member
  have inAll : c ∈ (words text).flatten := List.mem_flatten.mpr ⟨word, isWord, member⟩
  rw [flatten_words_continues continues] at inAll
  exact (List.mem_filter.mp inAll).2

end Text

namespace Naming

def lowerWords (wireName : String) : List (List Char) := (words (clean wireName.toList)).map lower

/-- The words that a field identifier is joined from. An underscore that the identifier gets for
want of words, before a digit or behind a keyword stands next to a word without letters. -/
def fieldWords (wireName : String) : List (List Char) :=
  match snake (clean wireName.toList) with
  | [] => [[], []]
  | c :: rest =>
    if isAsciiDigit c then [] :: lowerWords wireName
    else if pathKeywords.contains (String.ofList (c :: rest)) then lowerWords wireName ++ [[]]
    else lowerWords wireName

theorem lowerWords_letters (wireName : String) :
    ∀ word ∈ lowerWords wireName, ∀ c ∈ word, isAsciiAlphanumeric c = true := by
  rw [lowerWords, List.forall_mem_map]
  intro word isWord
  exact lower_letters (words_letters (clean_continues _) word isWord)

theorem fieldWords_letters (wireName : String) :
    ∀ word ∈ fieldWords wireName, ∀ c ∈ word, isAsciiAlphanumeric c = true := by
  have letters := lowerWords_letters wireName
  rw [fieldWords]
  split
  · simp
  · split
    · simpa using letters
    · split
      · rw [List.forall_mem_append]
        exact ⟨letters, by simp⟩
      · exact letters

theorem fieldWords_ne_nil (wireName : String) : fieldWords wireName ≠ [] := by
  rw [fieldWords]
  split
  · simp
  next c rest joined =>
      have nonempty : lowerWords wireName ≠ [] := by
        intro noWords
        rw [snake, ← lowerWords, noWords] at joined
        simp at joined
      split
      · simp
      · split
        · simp
        · exact nonempty

theorem not_underscore {c : Char} (letter : isAsciiAlphanumeric c = true) : c ≠ '_' := by
  rintro rfl
  exact absurd letter (by decide)

def joined (wireName : String) : String := String.ofList (List.intercalate ['_'] (fieldWords wireName))

theorem splitAt_joined (wireName : String) :
    splitAt (· == '_') (joined wireName).toList = fieldWords wireName := by
  rw [joined, String.toList_ofList]
  apply splitAt_intercalate (fieldWords_ne_nil wireName)
  intro word isWord member
  exact not_underscore (fieldWords_letters wireName word isWord '_' member) rfl

theorem joined_continues (wireName : String) :
    ∀ c ∈ (joined wireName).toList, continuesIdentifier c = true := by
  intro c member
  rw [joined, String.toList_ofList] at member
  rcases mem_intercalate member with between | ⟨word, isWord, inWord⟩
  · obtain rfl := List.mem_singleton.mp between
    decide
  · simp [continuesIdentifier, fieldWords_letters wireName word isWord c inWord]

def markRaw (word : String) : String := if rawKeywords.contains word then "r#" ++ word else word

theorem bareIdentifier_markRaw {word : String}
    (continues : ∀ c ∈ word.toList, continuesIdentifier c = true) :
    bareIdentifier (markRaw word) = word := by
  rw [markRaw]
  split
  · simp [bareIdentifier]
  · rw [bareIdentifier]
    split
    next rest marked =>
        have hash : '#' ∈ word.toList := by simp [marked]
        exact absurd (continues '#' hash) (by decide)
    next => exact String.ofList_toList

theorem joined_eq (wireName : String) :
    joined wireName =
      if pathKeywords.contains (String.ofList (fieldWord wireName)) then
        String.ofList (fieldWord wireName) ++ "_"
      else String.ofList (fieldWord wireName) := by
  have snake_eq : snake (clean wireName.toList) = List.intercalate ['_'] (lowerWords wireName) := rfl
  cases word : snake (clean wireName.toList) with
  | nil =>
      simp only [joined, fieldWords, fieldWord, word]
      decide
  | cons c rest =>
      have nonempty : lowerWords wireName ≠ [] := by
        intro noWords
        rw [snake_eq, noWords] at word
        simp at word
      simp only [joined, fieldWords, fieldWord, word]
      split
      next digit =>
          have before : List.intercalate ['_'] ([] :: lowerWords wireName) = '_' :: c :: rest := by
            obtain ⟨first, others, split⟩ := List.exists_cons_of_ne_nil nonempty
            rw [split, List.intercalate_cons_cons, ← split, ← snake_eq, word]
            rfl
          have noKeyword : pathKeywords.contains (String.ofList ('_' :: c :: rest)) = false := by
            simp [pathKeywords, String.ext_iff]
          rw [before, noKeyword]
          rfl
      next =>
          split
          next keyword =>
              rw [intercalate_append '_' nonempty (by simp), ← snake_eq, word]
              apply String.toList_inj.mp
              simp
          next => rw [← snake_eq, word]

theorem fieldName_eq (wireName : String) : fieldName wireName = markRaw (joined wireName) := by
  rw [joined_eq, fieldName]
  split
  next keyword =>
      have noRaw : ∀ word ∈ pathKeywords, markRaw (word ++ "_") = word ++ "_" := by decide
      exact (noRaw _ (by simpa using keyword)).symm
  next => rfl

theorem bareIdentifier_fieldName (wireName : String) :
    bareIdentifier (fieldName wireName) = joined wireName := by
  rw [fieldName_eq, bareIdentifier_markRaw (joined_continues wireName)]

theorem fieldName_eq_iff (first second : String) :
    fieldName first = fieldName second ↔ fieldWords first = fieldWords second := by
  constructor
  · intro same
    rw [← splitAt_joined, ← splitAt_joined, ← bareIdentifier_fieldName, ← bareIdentifier_fieldName,
      same]
  · intro same
    rw [fieldName_eq, fieldName_eq, joined, joined, same]

end Naming

end ApiContracts
