import ApiContracts.Proofs.Naming.FieldName
import ApiContracts.Proofs.Naming.Keyword
import ApiContracts.Proofs.Text.Spelling

/-!
Which wire names get a legal field identifier. All do but those without a letter or digit that are
at most one character long, and those that are the spelling of a keyword kept for later.
-/

namespace ApiContracts

open Text

namespace Naming

/-- A wire name without a word: at most one character is in it, and that no letter or digit. -/
structure Nameless (wireName : String) : Prop where
  short : wireName.toList.length ≤ 1
  blank : ∀ c ∈ wireName.toList, isAsciiAlphanumeric c = false

instance (wireName : String) : Decidable (Nameless wireName) :=
  decidable_of_iff
    (wireName.toList.length ≤ 1 ∧ wireName.toList.all (!isAsciiAlphanumeric ·) = true)
    ⟨fun ⟨short, blank⟩ => ⟨short, by simpa using blank⟩,
      fun nameless => ⟨nameless.short, by simpa using nameless.blank⟩⟩

def Spells (wireName keyword : String) : Prop := wireName.toList ∈ spellings keyword.toList

instance (wireName keyword : String) : Decidable (Spells wireName keyword) :=
  inferInstanceAs (Decidable (_ ∈ _))

theorem clean_eq_self {text : List Char}
    (letters : ∀ c ∈ clean text, isAsciiAlphanumeric c = true) :
    clean text = text := by
  apply clean_letters
  intro c member
  have image := letters _ (List.mem_map_of_mem member)
  split at image
  next letter => exact letter
  next => exact absurd image (by decide)

theorem spells_of_single {wireName word : String} (single : lowerWords wireName = [word.toList])
    (letters : ∀ c ∈ word.toList, isAsciiLetter c = true) : Spells wireName word := by
  have continues := clean_continues wireName.toList
  obtain ⟨raw, split, lowered⟩ := List.map_eq_singleton_iff.mp single
  have alphanumeric : ∀ c ∈ raw, isAsciiAlphanumeric c = true :=
    words_letters continues raw (by simp [split])
  have nonempty : clean wireName.toList ≠ [] := by
    intro empty
    simp [empty, words, clusters] at split
  rw [words_continues continues nonempty] at split
  have whole : clean wireName.toList = raw := by
    rw [← flatten_of_single split, ← List.flatMap_def]
    exact (List.flatMap_singleton' _).symm
  have same : wireName.toList = raw := (clean_eq_self (whole ▸ alphanumeric)).symm.trans whole
  rw [whole] at split
  have ascii : ∀ c ∈ raw, c.toNat < 128 :=
    fun c member => alphanumeric_ascii (alphanumeric c member)
  have rawLetters : ∀ c ∈ raw, isAsciiLetter c = true := by
    intro c member
    apply (LetterCase.of_ascii (ascii c member)).letter (alphanumeric c member)
    apply letters
    rw [← lowered, lower, lowerAfter_ascii ascii]
    exact List.mem_map_of_mem member
  rw [Spells, same, ← lowered]
  exact mem_spellings_lower rawLetters split

theorem fieldWords_single_iff {wireName word : String}
    (letters : ∀ c ∈ word.toList, isAsciiLetter c = true)
    (nonempty : word ≠ "") (free : word ∉ pathKeywords) :
    fieldWords wireName = [word.toList] ↔ lowerWords wireName = [word.toList] := by
  have filled : word.toList ≠ [] := by simpa using nonempty
  have snake_eq : snake (clean wireName.toList) = List.intercalate ['_'] (lowerWords wireName) := rfl
  constructor
  · intro same
    rw [fieldWords] at same
    split at same
    · simp at same
    · split at same
      · exact absurd (List.cons.inj same).1.symm filled
      · split at same
        · have last : [] = word.toList := by simpa using congrArg List.getLast? same
          exact absurd last.symm filled
        · exact same
  · intro single
    obtain ⟨c, rest, chars⟩ := List.exists_cons_of_ne_nil filled
    have notDigit : isAsciiDigit c = false := by
      have starts : startsIdentifier c = true := by
        simp [startsIdentifier, letters c (by simp [chars])]
      exact ((startsIdentifier_iff c).mp starts).2
    have notPlace : pathKeywords.contains (String.ofList (c :: rest)) = false := by
      rw [← chars, String.ofList_toList]
      simpa using free
    have row : snake (clean wireName.toList) = c :: rest := by
      rw [snake_eq, single, List.intercalate_singleton, chars]
    rw [fieldWords, row]
    simpa only [notDigit, notPlace, Bool.false_eq_true, ↓reduceIte] using single

structure IsReserved (keyword : String) : Prop where
  letters : ∀ c ∈ keyword.toList, isAsciiLetter c = true
  nonempty : keyword ≠ ""
  notRaw : keyword ∉ rawKeywords
  notPlace : keyword ∉ pathKeywords
  spelled : ∀ spelling ∈ spellings keyword.toList,
    (words (clean spelling)).map lower = [keyword.toList]

theorem isReserved : ∀ keyword ∈ reservedKeywords, IsReserved keyword := by
  have letters : ∀ keyword ∈ reservedKeywords, keyword.toList.all isAsciiLetter = true := by
    decide
  have nonempty : ∀ keyword ∈ reservedKeywords, keyword ≠ "" := by decide
  have notRaw : ∀ keyword ∈ reservedKeywords, keyword ∉ rawKeywords := by decide
  have notPlace : ∀ keyword ∈ reservedKeywords, keyword ∉ pathKeywords := by decide
  have spelled : ∀ keyword ∈ reservedKeywords, ∀ spelling ∈ spellings keyword.toList,
      (words (clean spelling)).map lower = [keyword.toList] := by
    decide +kernel
  intro keyword member
  exact ⟨List.all_eq_true.mp (letters keyword member), nonempty keyword member,
    notRaw keyword member, notPlace keyword member, spelled keyword member⟩

theorem joined_eq_keyword_iff (wireName : String) {keyword : String}
    (reserved : keyword ∈ reservedKeywords) :
    joined wireName = keyword ↔ Spells wireName keyword := by
  have word := isReserved keyword reserved
  have uncut : splitAt (· == '_') keyword.toList = [keyword.toList] := by
    apply splitAt_plain
    intro c member
    rw [beq_eq_false_iff_ne]
    rintro rfl
    exact absurd (word.letters _ member) (by decide)
  constructor
  · intro same
    have single := splitAt_joined wireName
    rw [same, uncut] at single
    exact spells_of_single
      ((fieldWords_single_iff word.letters word.nonempty word.notPlace).mp single.symm) word.letters
  · intro spelled
    have single : fieldWords wireName = [keyword.toList] :=
      (fieldWords_single_iff word.letters word.nonempty word.notPlace).mpr (word.spelled _ spelled)
    rw [joined, single, List.intercalate_singleton, String.ofList_toList]

theorem snake_eq_underscore_iff {text : List Char}
    (continues : ∀ c ∈ text, continuesIdentifier c = true) : snake text = ['_'] ↔ text = ['_'] := by
  cases text with
  | nil => simp [snake, words, clusters]
  | cons c rest =>
      obtain ⟨here, later⟩ := List.forall_mem_cons.mp continues
      rw [snake_eq_snakeRow continues]
      rcases alphanumeric_or_underscore here with letter | rfl
      · have lowered : c.toLower ≠ '_' := by
          intro same
          have cases := (LetterCase.of_ascii (continuesIdentifier_ascii here)).lowered letter
          rw [same] at cases
          exact absurd cases (by decide)
        rw [snakeRow_letter letter later]
        simp [not_underscore letter, lowered]
      · rw [snakeRow_underscore, ← snake_eq_snakeRow later, List.cons.injEq, List.cons.injEq,
          snake_eq_nil_iff later]

theorem fieldWord_eq_underscore_iff (wireName : String) :
    fieldWord wireName = ['_'] ↔ Nameless wireName := by
  have continues := clean_continues wireName.toList
  have short : fieldWord wireName = ['_'] ↔
      snake (clean wireName.toList) = [] ∨ snake (clean wireName.toList) = ['_'] := by
    rw [fieldWord]
    split
    next empty => simp [empty]
    next c rest row =>
        rw [row]
        split
        next digit =>
            simp only [List.cons.injEq, reduceCtorEq, and_false, false_or, false_iff, not_and]
            rintro rfl
            exact absurd digit (by decide)
        next => simp
  rw [short, snake_eq_nil_iff continues, snake_eq_underscore_iff continues]
  constructor
  · rintro (empty | lone)
    · have empty : wireName.toList = [] := List.map_eq_nil_iff.mp empty
      exact ⟨by simp [empty], by simp [empty]⟩
    · obtain ⟨c, chars, image⟩ := List.map_eq_singleton_iff.mp lone
      refine ⟨by simp [chars], ?_⟩
      rw [chars, List.forall_mem_singleton, ← Bool.not_eq_true]
      intro letter
      rw [if_pos letter] at image
      exact not_underscore letter image
  · rintro ⟨short, blank⟩
    cases chars : wireName.toList with
    | nil => exact .inl rfl
    | cons c rest =>
        rw [chars] at short blank
        obtain rfl : rest = [] := by simpa using short
        right
        simp [clean, blank c List.mem_cons_self]

theorem joined_eq_underscore_iff (wireName : String) :
    joined wireName = "_" ↔ Nameless wireName := by
  rw [← fieldWord_eq_underscore_iff, joined_eq]
  split
  next place =>
      have place : String.ofList (fieldWord wireName) ∈ pathKeywords := by simpa using place
      have longer : ∀ word ∈ pathKeywords, word ++ "_" ≠ "_" ∧ word ≠ "_" := by decide
      obtain ⟨notSuffixed, notLone⟩ := longer _ place
      refine iff_of_false notSuffixed ?_
      intro same
      exact notLone (congrArg String.ofList same)
  next => simp [String.ext_iff]

def IsFieldChar (c : Char) : Prop := IsSmall c ∨ isAsciiDigit c = true ∨ c = '_'

structure IsPlainField (name : String) : Prop where
  chars : ∀ c ∈ name.toList, IsFieldChar c
  nonempty : name ≠ ""
  start : ∀ c ∈ name.toList.head?, isAsciiDigit c = false
  notLone : name ≠ "_"
  notKeyword : name ∉ keywords

def IsFieldIdentifier (name : String) : Prop :=
  (∃ keyword ∈ keywords, keyword ∉ placeKeywords ∧ name = "r#" ++ keyword) ∨ IsPlainField name

theorem fieldName_eq_plain_iff {wireName word : String} (unmarked : '#' ∉ word.toList)
    (unlisted : word ∉ rawKeywords) : fieldName wireName = word ↔ joined wireName = word := by
  rw [fieldName_eq, markRaw]
  split
  next listed =>
      have listed : joined wireName ∈ rawKeywords := by simpa using listed
      constructor
      · rintro rfl
        simp at unmarked
      · intro same
        exact absurd (same ▸ listed) unlisted
  next => rfl

theorem fieldWord_start (wireName : String) :
    ∃ c rest, fieldWord wireName = c :: rest ∧ isAsciiDigit c = false := by
  rw [fieldWord]
  split
  · exact ⟨'_', [], rfl, by decide⟩
  next c rest _ =>
      split
      · exact ⟨'_', c :: rest, rfl, by decide⟩
      next notDigit => exact ⟨c, rest, rfl, by simpa using notDigit⟩

theorem joined_start (wireName : String) :
    joined wireName ≠ "" ∧ ∀ c ∈ (joined wireName).toList.head?, isAsciiDigit c = false := by
  obtain ⟨c, rest, word, notDigit⟩ := fieldWord_start wireName
  rw [joined_eq, word]
  split
  · simpa [String.ext_iff] using notDigit
  · simpa [String.ext_iff] using notDigit

theorem mem_fieldWords {wireName : String} {word : List Char}
    (member : word ∈ fieldWords wireName) :
    word = [] ∨ word ∈ lowerWords wireName := by
  rw [fieldWords] at member
  split at member
  · simp_all
  · split at member
    · simpa using member
    · split at member
      · simpa [or_comm] using member
      · exact .inr member

theorem joined_chars (wireName : String) : ∀ c ∈ (joined wireName).toList, IsFieldChar c := by
  intro c member
  rw [joined, String.toList_ofList] at member
  rcases mem_intercalate member with between | ⟨word, isWord, inWord⟩
  · exact .inr (.inr (List.mem_singleton.mp between))
  · rcases mem_fieldWords isWord with rfl | lowered
    · simp at inWord
    · obtain ⟨raw, isRaw, rfl⟩ := List.mem_map.mp lowered
      have letters := words_letters (clean_continues wireName.toList) raw isRaw
      have ascii : ∀ d ∈ raw, d.toNat < 128 := fun d inRaw =>
        alphanumeric_ascii (letters d inRaw)
      rw [lower, lowerAfter_ascii ascii] at inWord
      obtain ⟨d, inRaw, rfl⟩ := List.mem_map.mp inWord
      rcases (LetterCase.of_ascii (ascii d inRaw)).lowered (letters d inRaw) with small | digit
      · exact .inl small
      · exact .inr (.inl digit)

theorem joined_not_place (wireName : String) : joined wireName ∉ pathKeywords := by
  rw [joined_eq]
  split
  next place =>
      have longer : ∀ word ∈ pathKeywords, word ++ "_" ∉ pathKeywords := by decide
      exact longer _ (by simpa using place)
  next free => simpa using free

theorem IsFieldIdentifier.plain {name : String} (legal : IsFieldIdentifier name)
    (unmarked : '#' ∉ name.toList) : IsPlainField name := by
  rcases legal with ⟨keyword, _, _, rfl⟩ | plain
  · simp at unmarked
  · exact plain

theorem isFieldIdentifier_markRaw {wireName : String} (named : joined wireName ≠ "_")
    (unreserved : joined wireName ∉ reservedKeywords) :
    IsFieldIdentifier (markRaw (joined wireName)) := by
  have notPlace := joined_not_place wireName
  rw [markRaw]
  split
  next listed =>
      have listed : joined wireName ∈ rawKeywords := by simpa using listed
      have strict := (mem_strictKeywords_iff _).mpr (.inl listed)
      rw [← mem_placeKeywords_iff] at notPlace
      exact .inl ⟨joined wireName, List.mem_append_left _ strict, notPlace, rfl⟩
  next unlisted =>
      have unlisted : joined wireName ∉ rawKeywords := by simpa using unlisted
      obtain ⟨nonempty, start⟩ := joined_start wireName
      refine .inr ⟨joined_chars wireName, nonempty, start, named, ?_⟩
      intro keyword
      rcases List.mem_append.mp keyword with strict | reserved
      · exact ((mem_strictKeywords_iff _).mp strict).elim unlisted notPlace
      · exact unreserved reserved

/-- A wire name gets a legal field identifier but for two cases. One without a word gets the lone
underscore, and a spelling of a keyword kept for later gets that keyword. -/
theorem fieldName_legal_iff (wireName : String) :
    (fieldName wireName = "_" ↔ Nameless wireName) ∧
    (∀ keyword ∈ reservedKeywords, fieldName wireName = keyword ↔ Spells wireName keyword) ∧
    (IsFieldIdentifier (fieldName wireName) ↔
      ¬Nameless wireName ∧ ∀ keyword ∈ reservedKeywords, ¬Spells wireName keyword) := by
  have unmarked : ∀ keyword ∈ reservedKeywords, '#' ∉ keyword.toList := by decide
  have lone : fieldName wireName = "_" ↔ Nameless wireName :=
    (fieldName_eq_plain_iff (by decide) (by decide)).trans (joined_eq_underscore_iff wireName)
  have kept : ∀ keyword ∈ reservedKeywords, fieldName wireName = keyword ↔ Spells wireName keyword :=
    fun keyword reserved => (fieldName_eq_plain_iff (unmarked keyword reserved)
      (isReserved keyword reserved).notRaw).trans (joined_eq_keyword_iff wireName reserved)
  refine ⟨lone, kept, ?_⟩
  constructor
  · intro legal
    constructor
    · intro nameless
      rw [lone.mpr nameless] at legal
      exact (legal.plain (by decide)).notLone rfl
    · intro keyword reserved spelled
      rw [(kept keyword reserved).mpr spelled] at legal
      exact (legal.plain (unmarked keyword reserved)).notKeyword (List.mem_append_right _ reserved)
  · rintro ⟨named, unspelled⟩
    rw [fieldName_eq]
    apply isFieldIdentifier_markRaw
    · rwa [ne_eq, joined_eq_underscore_iff]
    · intro reserved
      exact unspelled _ reserved ((joined_eq_keyword_iff wireName reserved).mp rfl)

example : Spells "Do" "do" ∧ ¬Spells "do-it" "do" ∧ Nameless "é" ∧ ¬Nameless "é2" := by decide

theorem try_not_legal :
    fieldName "try" = "try" ∧ ¬IsFieldIdentifier (fieldName "try") ∧
      fieldName "" = "_" ∧ ¬IsFieldIdentifier (fieldName "") := by
  have keyword : fieldName "try" = "try" := by decide +kernel
  have lone : fieldName "" = "_" := by decide +kernel
  refine ⟨keyword, ?_, lone, ?_⟩
  · intro legal
    rw [keyword] at legal
    exact (legal.plain (by decide)).notKeyword (by decide)
  · intro legal
    rw [lone] at legal
    exact (legal.plain (by decide)).notLone rfl

end Naming

end ApiContracts
