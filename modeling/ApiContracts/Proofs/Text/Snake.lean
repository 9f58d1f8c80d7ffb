import ApiContracts.Proofs.Text.Identifier
import Mathlib.Data.List.Chain

/-!
Snake case of a text of identifier characters, character by character: capitals become small, and an
underscore comes between two characters where a word ends. A text is its own snake case just if it
has no capital and no digit beside a letter.
-/

namespace ApiContracts.Text

theorem isAsciiLetter_iff (c : Char) : isAsciiLetter c = true ↔ IsSmall c ∨ IsCapital c := by
  simp [isAsciiLetter, IsSmall, IsCapital]

theorem alphanumeric_of_letter {c : Char} (letter : isAsciiLetter c = true) :
    isAsciiAlphanumeric c = true := by
  rw [isAsciiLetter] at letter
  simp [isAsciiAlphanumeric, letter]

theorem continues_of_letter {c : Char} (letter : isAsciiLetter c = true) :
    continuesIdentifier c = true := by
  simp [continuesIdentifier, alphanumeric_of_letter letter]

structure CasedChar (c : Char) : Prop where
  isUpper : Cluster.isUpper [c] = true ↔ IsCapital c
  isLower : Cluster.isLower [c] = true ↔ IsSmall c
  isDigit : Cluster.isDigit [c] = isAsciiDigit c
  keeps : c.toLower = c ↔ ¬IsCapital c
  lowerDigit : isAsciiDigit c.toLower = isAsciiDigit c

instance (c : Char) : Decidable (CasedChar c) :=
  decidable_of_iff ((Cluster.isUpper [c] = true ↔ IsCapital c) ∧
      (Cluster.isLower [c] = true ↔ IsSmall c) ∧ Cluster.isDigit [c] = isAsciiDigit c ∧
      (c.toLower = c ↔ ¬IsCapital c) ∧ isAsciiDigit c.toLower = isAsciiDigit c)
    ⟨fun ⟨isUpper, isLower, isDigit, keeps, lowerDigit⟩ =>
        ⟨isUpper, isLower, isDigit, keeps, lowerDigit⟩,
      fun all => ⟨all.isUpper, all.isLower, all.isDigit, all.keeps, all.lowerDigit⟩⟩

theorem CasedChar.of_continues {c : Char} (continues : continuesIdentifier c = true) :
    CasedChar c :=
  of_asciiCodes (fun c => continuesIdentifier c = true → CasedChar c) (by decide +kernel)
    (continuesIdentifier_ascii continues) continues

theorem splitWords_ne_nil (pieces : List Cluster) : splitWords pieces ≠ [] := by
  cases pieces with
  | nil => simp [splitWords]
  | cons piece rest =>
      rw [splitWords]
      split
      · simp
      · split
        · simp
        · split <;> simp

theorem words_continues {text : List Char} (continues : ∀ c ∈ text, continuesIdentifier c = true)
    (nonempty : text ≠ []) : words text = splitWords (text.map ([·])) := by
  have single := clusters_other fun c member =>
    (IdentifierChar.of_continues (continues c member)).role
  rw [words, single]
  split
  next empty => exact absurd (List.map_eq_nil_iff.mp empty) nonempty
  next => rfl

def snakeRow (text : List Char) : List Char :=
  List.intercalate ['_'] ((splitWords (text.map ([·]))).map lower)

theorem snake_eq_snakeRow {text : List Char}
    (continues : ∀ c ∈ text, continuesIdentifier c = true) : snake text = snakeRow text := by
  by_cases empty : text = []
  · subst empty
    rfl
  · rw [snake, words_continues continues empty, snakeRow]

theorem lower_cons_ascii {c : Char} {word : List Char} (ascii : ∀ d ∈ c :: word, d.toNat < 128) :
    lower (c :: word) = c.toLower :: lower word := by
  obtain ⟨_, later⟩ := List.forall_mem_cons.mp ascii
  rw [lower, lower, lowerAfter_ascii ascii, lowerAfter_ascii later, List.map_cons]

theorem intercalate_nil_cons {separator : Char} {pieces : List (List Char)}
    (nonempty : pieces ≠ []) : List.intercalate [separator] ([] :: pieces) =
      separator :: List.intercalate [separator] pieces := by
  obtain ⟨piece, others, rfl⟩ := List.exists_cons_of_ne_nil nonempty
  rw [List.intercalate_cons_cons]
  rfl

theorem intercalate_cons_char {separator c : Char} (piece : List Char) (pieces : List (List Char)) :
    List.intercalate [separator] ((c :: piece) :: pieces) =
      c :: List.intercalate [separator] (piece :: pieces) := by
  cases pieces with
  | nil => simp
  | cons next others => simp [List.intercalate_cons_cons]

theorem snakeRow_underscore (rest : List Char) : snakeRow ('_' :: rest) = '_' :: snakeRow rest := by
  have separator : Cluster.isSeparator ['_'] = true := rfl
  rw [snakeRow, List.map_cons, splitWords, if_pos separator, List.map_cons, snakeRow]
  exact intercalate_nil_cons (by simpa using splitWords_ne_nil _)

theorem snakeRow_letter {c : Char} {rest : List Char} (letter : isAsciiAlphanumeric c = true)
    (continues : ∀ d ∈ rest, continuesIdentifier d = true) :
    snakeRow (c :: rest) = c.toLower ::
      if Cluster.endsWord [c] (rest.map ([·])) then '_' :: snakeRow rest else snakeRow rest := by
  have here : continuesIdentifier c = true := by simp [continuesIdentifier, letter]
  have notSeparator : Cluster.isSeparator [c] = false := by
    simp [(IdentifierChar.of_continues here).separates, letter]
  have ascii {word : List Char} (inside : ∀ d ∈ word, d ∈ rest) : ∀ d ∈ c :: word, d.toNat < 128 :=
    List.forall_mem_cons.mpr ⟨continuesIdentifier_ascii here,
      fun d member => continuesIdentifier_ascii (continues d (inside d member))⟩
  have nonempty := splitWords_ne_nil (rest.map ([·]))
  rw [snakeRow, List.map_cons, splitWords, notSeparator]
  simp only [Bool.false_eq_true, ↓reduceIte]
  split
  next ends =>
      have single : ∀ d ∈ [c], d.toNat < 128 := ascii (by simp)
      rw [List.map_cons, lower_cons_ascii single, intercalate_cons_char]
      exact congrArg _ (intercalate_nil_cons (by simpa using nonempty))
  next goesOn =>
      split
      next noWords => exact absurd noWords nonempty
      next word words split =>
          have inside : ∀ d ∈ word, d ∈ rest := by
            intro d member
            have isWord : word ∈ splitWords (rest.map ([·])) := by simp [split]
            simpa using mem_splitWords isWord member
          rw [snakeRow, split, List.map_cons, List.map_cons, List.singleton_append,
            lower_cons_ascii (ascii inside), intercalate_cons_char]

theorem alphanumeric_or_underscore {c : Char} (continues : continuesIdentifier c = true) :
    isAsciiAlphanumeric c = true ∨ c = '_' := by
  simpa [continuesIdentifier] using continues

theorem snake_head? {text : List Char} (continues : ∀ c ∈ text, continuesIdentifier c = true) :
    (snake text).head? = text.head?.map Char.toLower := by
  rw [snake_eq_snakeRow continues]
  cases text with
  | nil => rfl
  | cons c rest =>
      obtain ⟨here, later⟩ := List.forall_mem_cons.mp continues
      rcases alphanumeric_or_underscore here with letter | rfl
      · rw [snakeRow_letter letter later]
        rfl
      · rw [snakeRow_underscore]
        rfl

theorem snake_eq_nil_iff {text : List Char} (continues : ∀ c ∈ text, continuesIdentifier c = true) :
    snake text = [] ↔ text = [] := by
  rw [← List.head?_eq_none_iff, snake_head? continues]
  simp

theorem snake_continues {text : List Char} (continues : ∀ c ∈ text, continuesIdentifier c = true) :
    ∀ c ∈ snake text, continuesIdentifier c = true := by
  intro c member
  rcases mem_intercalate member with between | ⟨piece, isPiece, inPiece⟩
  · obtain rfl := List.mem_singleton.mp between
    rfl
  · obtain ⟨word, isWord, rfl⟩ := List.mem_map.mp isPiece
    have inside : ∀ d ∈ word, continuesIdentifier d = true :=
      fun d inWord => continues d (mem_words isWord inWord)
    have ascii : ∀ d ∈ word, d.toNat < 128 :=
      fun d inWord => continuesIdentifier_ascii (inside d inWord)
    rw [lower, lowerAfter_ascii ascii] at inPiece
    obtain ⟨d, inWord, rfl⟩ := List.mem_map.mp inPiece
    exact (IdentifierChar.of_continues (inside d inWord)).lower

def isMixed (c d : Char) : Bool :=
  (isAsciiDigit c && isAsciiLetter d) || (isAsciiLetter c && isAsciiDigit d)

theorem endsWord_eq_isMixed {c : Char} {rest : List Char} (first : CasedChar c)
    (continues : ∀ d ∈ rest, continuesIdentifier d = true) (plain : ¬IsCapital c)
    (plainNext : ∀ d ∈ rest.head?, ¬IsCapital d) :
    Cluster.endsWord [c] (rest.map ([·])) = rest.head?.any (isMixed c) := by
  cases rest with
  | nil => rfl
  | cons d others =>
      have second := CasedChar.of_continues (continues d List.mem_cons_self)
      have notUpper : Cluster.isUpper [c] = false := by
        rwa [← Bool.not_eq_true, first.isUpper]
      have notUpperNext : Cluster.isUpper [d] = false := by
        rw [← Bool.not_eq_true, second.isUpper]
        exact plainNext d rfl
      have lower : Cluster.isLower [c] = isAsciiLetter c := by
        rw [Bool.eq_iff_iff, first.isLower, isAsciiLetter_iff, or_iff_left plain]
      have lowerNext : Cluster.isLower [d] = isAsciiLetter d := by
        rw [Bool.eq_iff_iff, second.isLower, isAsciiLetter_iff,
          or_iff_left (plainNext d rfl)]
      simp only [Cluster.endsWord, List.map_cons, notUpper, notUpperNext, lower, lowerNext,
        first.isDigit, second.isDigit, Bool.false_or, Bool.false_and, Bool.or_false]
      exact Bool.or_comm _ _

theorem endsWord_underscore {c : Char} (rest : List Char) :
    Cluster.endsWord [c] (('_' :: rest).map ([·])) = false := by
  have notUpper : Cluster.isUpper ['_'] = false := by decide +kernel
  have notLower : Cluster.isLower ['_'] = false := by decide +kernel
  have notDigit : Cluster.isDigit ['_'] = false := rfl
  simp [Cluster.endsWord, notUpper, notLower, notDigit]

theorem snakeRow_eq_self_iff {text : List Char}
    (continues : ∀ c ∈ text, continuesIdentifier c = true) :
    snakeRow text = text ↔
      (∀ c ∈ text, ¬IsCapital c) ∧ text.IsChain (isMixed · · = false) := by
  induction text with
  | nil => simp [snakeRow, splitWords, lower, lowerAfter]
  | cons c rest ih =>
      obtain ⟨here, later⟩ := List.forall_mem_cons.mp continues
      have cased := CasedChar.of_continues here
      rw [List.forall_mem_cons, List.isChain_cons]
      rcases alphanumeric_or_underscore here with letter | rfl
      · have head (plain : ¬IsCapital c) (plainRest : ∀ d ∈ rest, ¬IsCapital d) :
            Cluster.endsWord [c] (rest.map ([·])) = rest.head?.any (isMixed c) :=
          endsWord_eq_isMixed cased later plain fun d first =>
            plainRest d (List.mem_of_mem_head? first)
        rw [snakeRow_letter letter later, List.cons.injEq, cased.keeps]
        constructor
        · rintro ⟨plain, same⟩
          split at same
          next ends =>
              -- The underscore that the word's end brings would have to stand there already.
              rw [← same, endsWord_underscore] at ends
              contradiction
          next goesOn =>
              obtain ⟨plainRest, chain⟩ := (ih later).mp same
              rw [head plain plainRest, Bool.not_eq_true] at goesOn
              exact ⟨⟨plain, plainRest⟩, by simpa [Option.any_eq_false] using goesOn, chain⟩
        · rintro ⟨⟨plain, plainRest⟩, apart, chain⟩
          have goesOn : Cluster.endsWord [c] (rest.map ([·])) = false := by
            rw [head plain plainRest]
            simpa [Option.any_eq_false] using apart
          rw [goesOn]
          exact ⟨plain, (ih later).mpr ⟨plainRest, chain⟩⟩
      · have notMixed (d : Char) : isMixed '_' d = false := by
          simp [isMixed, isAsciiDigit, isAsciiLetter]
        rw [snakeRow_underscore, List.cons.injEq, ih later]
        simp [notMixed, IsCapital]

end ApiContracts.Text
