import ApiContracts.Proofs.Text.Snake

/-!
Texts that are a single word. Letters that no word ends between are capitals, or small letters
behind a first one: three spellings of the same small letters.
-/

namespace ApiContracts.Text

def spellings (word : List Char) : List (List Char) := [word, upper word, capitalize word]

theorem flatten_of_single {pieces : List Cluster} {word : List Char}
    (single : splitWords pieces = [word]) : pieces.flatten = word := by
  induction pieces generalizing word with
  | nil => simpa [splitWords] using single
  | cons piece rest ih =>
      have nonempty := splitWords_ne_nil rest
      rw [splitWords] at single
      split at single
      · simp [nonempty] at single
      · split at single
        · simp [nonempty] at single
        · split at single
          next noWords => exact absurd noWords nonempty
          next first others split =>
              obtain ⟨rfl, rfl⟩ := List.cons.inj single
              rw [List.flatten_cons, ih split]

theorem not_small_of_capital {c : Char} (capital : IsCapital c) : ¬IsSmall c :=
  fun small => absurd (Char.le_trans small.1 capital.2) (by decide)

theorem CasedChar.of_letter {c : Char} (letter : isAsciiLetter c = true) : CasedChar c :=
  .of_continues (continues_of_letter letter)

theorem capitals_or_small {text : List Char} (letters : ∀ c ∈ text, isAsciiLetter c = true)
    (whole : splitWords (text.map ([·])) = [text]) :
    (∀ c ∈ text, IsCapital c) ∨ ∀ c ∈ text.tail, IsSmall c := by
  induction text with
  | nil => simp
  | cons c rest ih =>
      obtain ⟨here, later⟩ := List.forall_mem_cons.mp letters
      have notSeparator : Cluster.isSeparator [c] = false := by
        simp [(IdentifierChar.of_continues (continues_of_letter here)).separates,
          alphanumeric_of_letter here]
      rw [List.map_cons, splitWords, notSeparator] at whole
      simp only [Bool.false_eq_true, ↓reduceIte] at whole
      split at whole
      next => simp [splitWords_ne_nil] at whole
      next goesOn =>
        split at whole
        next noWords => exact absurd noWords (splitWords_ne_nil _)
        next word words split =>
            obtain ⟨rfl, rfl⟩ : word = rest ∧ words = [] := by simpa using whole
            have ih := ih later split
            cases word with
            | nil => simp
            | cons d others =>
                obtain ⟨next, behind⟩ := List.forall_mem_cons.mp later
                rcases (isAsciiLetter_iff d).mp next with small | capital
                · right
                  rcases ih with capitals | smalls
                  · exact absurd small (not_small_of_capital (capitals d List.mem_cons_self))
                  · exact List.forall_mem_cons.mpr ⟨small, smalls⟩
                · left
                  have upperNext := (CasedChar.of_letter next).isUpper.mpr capital
                  have first : IsCapital c := by
                    apply ((isAsciiLetter_iff c).mp here).resolve_left
                    intro small
                    have lower := (CasedChar.of_letter here).isLower.mpr small
                    exact goesOn (by simp [Cluster.endsWord, lower, upperNext])
                  have upper := (CasedChar.of_letter here).isUpper.mpr first
                  refine List.forall_mem_cons.mpr ⟨first, ?_⟩
                  rcases ih with capitals | smalls
                  · exact capitals
                  · cases others with
                    | nil => simpa using capital
                    | cons e more =>
                        -- Two capitals and a small letter behind them are two words.
                        have letter := behind e List.mem_cons_self
                        have lower := (CasedChar.of_letter letter).isLower.mpr
                          (smalls e List.mem_cons_self)
                        exact absurd (by simp [Cluster.endsWord, upper, upperNext, lower]) goesOn

theorem upper_ascii {text : List Char} (ascii : ∀ c ∈ text, c.toNat < 128) :
    upper text = text.map Char.toUpper := by
  rw [upper, List.map_eq_flatMap]
  apply List.flatMap_congr
  intro c member
  rw [upperChar, if_pos (ascii c member)]

structure LetterCase (c : Char) : Prop where
  small : IsSmall c → c.toLower = c
  capital : IsCapital c → c.toLower.toUpper = c
  ascii : c.toLower.toNat < 128
  letter : isAsciiAlphanumeric c = true → isAsciiLetter c.toLower = true → isAsciiLetter c = true
  lowered : isAsciiAlphanumeric c = true → IsSmall c.toLower ∨ isAsciiDigit c.toLower = true

instance (c : Char) : Decidable (LetterCase c) :=
  decidable_of_iff ((IsSmall c → c.toLower = c) ∧ (IsCapital c → c.toLower.toUpper = c) ∧
      c.toLower.toNat < 128 ∧
      (isAsciiAlphanumeric c = true → isAsciiLetter c.toLower = true → isAsciiLetter c = true) ∧
      (isAsciiAlphanumeric c = true → IsSmall c.toLower ∨ isAsciiDigit c.toLower = true))
    ⟨fun ⟨small, capital, ascii, letter, lowered⟩ => ⟨small, capital, ascii, letter, lowered⟩,
      fun all => ⟨all.small, all.capital, all.ascii, all.letter, all.lowered⟩⟩

theorem LetterCase.of_ascii {c : Char} (ascii : c.toNat < 128) : LetterCase c :=
  of_asciiCodes LetterCase (by decide +kernel) ascii

theorem map_toLower_small {text : List Char} (small : ∀ c ∈ text, IsSmall c) :
    text.map Char.toLower = text := by
  conv_rhs => rw [← List.map_id text]
  exact List.map_congr_left fun c member =>
    (LetterCase.of_ascii (small c member).ascii).small (small c member)

theorem mem_spellings_lower {text : List Char} (letters : ∀ c ∈ text, isAsciiLetter c = true)
    (whole : splitWords (text.map ([·])) = [text]) : text ∈ spellings (lower text) := by
  have ascii : ∀ c ∈ text, c.toNat < 128 :=
    fun c member => continuesIdentifier_ascii (continues_of_letter (letters c member))
  have lowered : lower text = text.map Char.toLower := lowerAfter_ascii ascii []
  have loweredAscii : ∀ c ∈ text.map Char.toLower, c.toNat < 128 :=
    List.forall_mem_map.mpr fun c member => (LetterCase.of_ascii (ascii c member)).ascii
  rw [spellings, lowered]
  rcases capitals_or_small letters whole with capitals | smalls
  · have back : upper (text.map Char.toLower) = text := by
      rw [upper_ascii loweredAscii, List.map_map]
      conv_rhs => rw [← List.map_id text]
      exact List.map_congr_left fun c member =>
        (LetterCase.of_ascii (ascii c member)).capital (capitals c member)
    simp [back]
  · cases text with
    | nil => simp
    | cons c rest =>
        obtain ⟨hereAscii, laterAscii⟩ := List.forall_mem_cons.mp ascii
        have same : rest.map Char.toLower = rest := map_toLower_small smalls
        rcases (isAsciiLetter_iff c).mp (letters c List.mem_cons_self) with small | capital
        · simp [same, (LetterCase.of_ascii hereAscii).small small]
        · rw [List.map_cons] at loweredAscii ⊢
          rw [capitalize_ascii loweredAscii, (LetterCase.of_ascii hereAscii).capital capital, same,
            same]
          simp

end ApiContracts.Text
