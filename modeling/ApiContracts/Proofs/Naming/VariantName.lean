import ApiContracts.Proofs.Naming.FieldName
import ApiContracts.Proofs.Naming.Keyword
import ApiContracts.Proofs.Text.Spelling

/-!
The identifiers of variants. Each begins with a capital, so that the only keyword among them is the
one that does, and that comes from the values whose only word it is.
-/

namespace ApiContracts

open Text

namespace Text

structure HeadCase (c : Char) : Prop where
  upperLower : c.toUpper.toLower = c.toLower
  lowerUpper : c.toLower.toUpper = c.toUpper
  lowerLower : c.toLower.toLower = c.toLower
  head : IsCapital c.toUpper ∨ isAsciiDigit c.toUpper = true
  notSmall : ¬IsSmall c.toUpper
  ascii : c.toUpper.toNat < 128

instance (c : Char) : Decidable (HeadCase c) :=
  decidable_of_iff (c.toUpper.toLower = c.toLower ∧ c.toLower.toUpper = c.toUpper ∧
      c.toLower.toLower = c.toLower ∧ (IsCapital c.toUpper ∨ isAsciiDigit c.toUpper = true) ∧
      ¬IsSmall c.toUpper ∧ c.toUpper.toNat < 128)
    ⟨fun ⟨upperLower, lowerUpper, lowerLower, head, notSmall, ascii⟩ =>
        ⟨upperLower, lowerUpper, lowerLower, head, notSmall, ascii⟩,
      fun all => ⟨all.upperLower, all.lowerUpper, all.lowerLower, all.head, all.notSmall, all.ascii⟩⟩

theorem HeadCase.of_alphanumeric {c : Char} (letter : isAsciiAlphanumeric c = true) : HeadCase c :=
  of_asciiCodes (fun c => isAsciiAlphanumeric c = true → HeadCase c) (by decide +kernel)
    (alphanumeric_ascii letter) letter

section Words

variable {word : List Char} (letters : ∀ c ∈ word, isAsciiAlphanumeric c = true)
include letters

theorem lower_letters_eq : lower word = word.map Char.toLower :=
  lowerAfter_ascii (fun c member => alphanumeric_ascii (letters c member)) []

theorem lowered_ascii : ∀ c ∈ word.map Char.toLower, c.toNat < 128 :=
  List.forall_mem_map.mpr fun c member =>
    (LetterCase.of_ascii (alphanumeric_ascii (letters c member))).ascii

theorem lower_lower : (word.map Char.toLower).map Char.toLower = word.map Char.toLower := by
  rw [List.map_map]
  exact List.map_congr_left fun c member => (HeadCase.of_alphanumeric (letters c member)).lowerLower

theorem capitalize_lower : capitalize (lower word) = capitalize word := by
  have ascii : ∀ c ∈ word, c.toNat < 128 := fun c member => alphanumeric_ascii (letters c member)
  have lowered := lowered_ascii letters
  rw [lower_letters_eq letters]
  cases word with
  | nil => rfl
  | cons c rest =>
      obtain ⟨here, later⟩ := List.forall_mem_cons.mp letters
      rw [List.map_cons] at lowered ⊢
      rw [capitalize_ascii lowered, capitalize_ascii ascii, lower_lower later,
        (HeadCase.of_alphanumeric here).lowerUpper]

theorem lower_capitalize : lower (capitalize word) = lower word := by
  have ascii : ∀ c ∈ word, c.toNat < 128 := fun c member => alphanumeric_ascii (letters c member)
  rw [lower_letters_eq letters]
  cases word with
  | nil => rfl
  | cons c rest =>
      obtain ⟨here, later⟩ := List.forall_mem_cons.mp letters
      have head := HeadCase.of_alphanumeric here
      have capitalized : ∀ d ∈ c.toUpper :: rest.map Char.toLower, d.toNat < 128 :=
        List.forall_mem_cons.mpr ⟨head.ascii, lowered_ascii later⟩
      rw [capitalize_ascii ascii, lower, lowerAfter_ascii capitalized, List.map_cons,
        lower_lower later, head.upperLower, List.map_cons]

end Words

theorem flatten_capitalize_filled (words : List (List Char)) :
    ((words.filter (!·.isEmpty)).map capitalize).flatten = (words.map capitalize).flatten := by
  induction words with
  | nil => rfl
  | cons word others ih =>
      cases word with
      | nil => simpa [capitalize] using ih
      | cons c rest => simp [ih]

end Text

namespace Naming

def IsCapitalized (name : String) : Prop :=
  ∃ c rest, name.toList = c :: rest ∧ IsCapital c ∧ ∀ d ∈ rest, continuesIdentifier d = true

theorem IsCapitalized.continues {name : String} (capitalized : IsCapitalized name) :
    ∀ c ∈ name.toList, continuesIdentifier c = true := by
  obtain ⟨c, rest, chars, capital, later⟩ := capitalized
  rw [chars]
  refine List.forall_mem_cons.mpr ⟨?_, later⟩
  rw [IsCapital] at capital
  simp [continuesIdentifier, isAsciiAlphanumeric, capital]

theorem isPlainName_of_capitalized {name : String} (capitalized : IsCapitalized name) :
    IsPlainName name ↔ name ≠ "Self" := by
  obtain ⟨c, rest, chars, capital, continues⟩ := capitalized
  constructor
  · rintro plain rfl
    exact plain.notKeyword (by decide)
  · intro notSelf
    refine ⟨?_, ?_, ?_⟩
    · have starts : startsIdentifier c = true := by
        rw [IsCapital] at capital
        simp [startsIdentifier, isAsciiLetter, capital]
      rw [isIdentifier, chars]
      simpa [starts] using continues
    · rintro rfl
      rw [← (List.cons.inj chars).1] at capital
      exact absurd capital (by decide)
    · intro keyword
      have onlySelf : ∀ word ∈ keywords,
          word.toList.head?.all (fun d => decide (IsCapital d)) = true → word = "Self" := by
        decide
      exact notSelf (onlySelf name keyword (by simpa [chars] using capital))

theorem variantName_capitalized (value : String) : IsCapitalized (variantName value) := by
  have continues := pascal_continues (clean_continues value.toList)
  have head := pascal_head? (clean_continues value.toList)
  rw [variantName]
  split
  · exact ⟨'E', ['m', 'p', 't', 'y'], by decide, by decide, List.all_eq_true.mp (by decide)⟩
  next c rest row =>
      rw [row] at continues head
      obtain ⟨first, found, rfl⟩ := Option.map_eq_some_iff.mp head.symm
      have letter : isAsciiAlphanumeric first = true := List.find?_some found
      obtain ⟨_, later⟩ := List.forall_mem_cons.mp continues
      rw [IsCapitalized, String.toList_ofList]
      split
      · exact ⟨'V', _, rfl, by decide, continues⟩
      next notDigit =>
          exact ⟨_, rest, rfl, (HeadCase.of_alphanumeric letter).head.resolve_right notDigit, later⟩

theorem variantName_eq_self_iff_pascal (value : String) :
    variantName value = "Self" ↔ pascal (clean value.toList) = "Self".toList := by
  rw [variantName]
  split
  next empty => simp [empty]
  next c rest row =>
      rw [row]
      split
      next digit =>
          refine iff_of_false (by simp [String.ext_iff]) ?_
          intro same
          rw [(List.cons.inj same).1] at digit
          exact absurd digit (by decide)
      next => simp [String.ext_iff]

def filledWords (value : String) : List (List Char) := (lowerWords value).filter (!·.isEmpty)

theorem filledWords_eq (value : String) :
    filledWords value = ((words (clean value.toList)).filter (!·.isEmpty)).map lower := by
  rw [filledWords, lowerWords, List.filter_map]
  congr 1
  apply List.filter_congr
  intro word isWord
  have letters := words_letters (clean_continues value.toList) word isWord
  simp [lower_letters_eq letters]

theorem variantName_eq_self_iff (value : String) :
    variantName value = "Self" ↔ filledWords value = ["self".toList] := by
  rw [variantName_eq_self_iff_pascal, filledWords_eq, pascal, ← flatten_capitalize_filled]
  have letters : ∀ word ∈ (words (clean value.toList)).filter (!·.isEmpty),
      word ≠ [] ∧ ∀ c ∈ word, isAsciiAlphanumeric c = true := by
    intro word member
    obtain ⟨isWord, filled⟩ := List.mem_filter.mp member
    exact ⟨by simpa using filled, words_letters (clean_continues value.toList) word isWord⟩
  generalize (words (clean value.toList)).filter (!·.isEmpty) = filled at letters
  cases filled with
  | nil => simp
  | cons word others =>
      obtain ⟨filledWord, chars⟩ := letters word List.mem_cons_self
      cases others with
      | nil =>
          simp only [List.map_cons, List.map_nil, List.flatten_cons, List.flatten_nil,
            List.append_nil, List.cons.injEq, and_true]
          constructor
          · intro same
            rw [← lower_capitalize chars, same]
            decide
          · intro same
            rw [← capitalize_lower chars, same]
            decide
      | cons next others =>
          -- The capital of the second word would have to be a small letter of the keyword.
          obtain ⟨filledNext, nextChars⟩ := letters next (by simp)
          obtain ⟨c, rest, rfl⟩ := List.exists_cons_of_ne_nil filledWord
          obtain ⟨d, more, rfl⟩ := List.exists_cons_of_ne_nil filledNext
          refine iff_of_false ?_ (by simp)
          intro same
          have small : "Self".toList.tail.all (fun e => decide (IsSmall e)) = true := by decide
          have here : d.toUpper ∈ "Self".toList.tail := by
            rw [← same, List.map_cons, List.map_cons,
              capitalize_ascii fun e member => alphanumeric_ascii (chars e member),
              capitalize_ascii fun e member => alphanumeric_ascii (nextChars e member)]
            simp
          have capital := (HeadCase.of_alphanumeric (nextChars d List.mem_cons_self)).notSmall
          exact capital (of_decide_eq_true (List.all_eq_true.mp small _ here))

end Naming

end ApiContracts
