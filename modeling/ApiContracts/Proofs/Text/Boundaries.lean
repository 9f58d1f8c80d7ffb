import ApiContracts.Proofs.Text.Spelling

/-!
Where small letters end a word. An underscore or a capital behind them does, and so a row of letters
and underscores is cut into the words that it was joined from.
-/

namespace ApiContracts.Text

def filledRow (row : List Char) : List (List Char) :=
  (splitWords (row.map ([·]))).filter (!·.isEmpty)

/-- Small letters before the text end a word: it is empty or begins with an underscore or a capital.
-/
def Closes (text : List Char) : Prop := ∀ c ∈ text.head?, c = '_' ∨ IsCapital c

theorem filledRow_underscore (rest : List Char) : filledRow ('_' :: rest) = filledRow rest := by
  have separator : Cluster.isSeparator ['_'] = true := rfl
  rw [filledRow, List.map_cons, splitWords, if_pos separator]
  rfl

theorem filledRow_underscores (count : Nat) (rest : List Char) :
    filledRow (List.replicate count '_' ++ rest) = filledRow rest := by
  induction count with
  | zero => rfl
  | succ count ih => rw [List.replicate_succ, List.cons_append, filledRow_underscore, ih]

theorem closes_underscores {count : Nat} (positive : count ≠ 0) (rest : List Char) :
    Closes (List.replicate count '_' ++ rest) := by
  obtain ⟨less, rfl⟩ := Nat.exists_eq_succ_of_ne_zero positive
  simp [Closes, List.replicate_succ]

theorem IsSmall.isAsciiLetter {c : Char} (small : IsSmall c) : isAsciiLetter c = true :=
  (isAsciiLetter_iff c).mpr (.inl small)

theorem IsCapital.isAsciiLetter {c : Char} (capital : IsCapital c) : isAsciiLetter c = true :=
  (isAsciiLetter_iff c).mpr (.inr capital)

theorem endsWord_before_small {c d : Char} (letter : Text.isAsciiLetter c = true)
    (small : IsSmall d) (rest : List Char) :
    Cluster.endsWord [c] ((d :: rest).map ([·])) = false := by
  have plain := small.plain
  have notDigit : Cluster.isDigit [c] = false := by
    rw [(CasedChar.of_letter letter).isDigit]
    have starts : startsIdentifier c = true := by simp [startsIdentifier, letter]
    exact ((startsIdentifier_iff c).mp starts).2
  simp [Cluster.endsWord, plain.notUpper, plain.notDigit, notDigit]

theorem not_isSeparator_of_letter {c : Char} (letter : Text.isAsciiLetter c = true) :
    Cluster.isSeparator [c] = false := by
  simp [(IdentifierChar.of_continues (continues_of_letter letter)).separates,
    alphanumeric_of_letter letter]

theorem splitWords_small {letters rest : List Char} (nonempty : letters ≠ [])
    (small : ∀ c ∈ letters, IsSmall c) (closes : Closes rest) :
    ∃ others, splitWords ((letters ++ rest).map ([·])) = letters :: others ∧
      others.filter (!·.isEmpty) = filledRow rest := by
  induction letters with
  | nil => contradiction
  | cons c letters ih =>
      obtain ⟨here, later⟩ := List.forall_mem_cons.mp small
      have notSeparator := not_isSeparator_of_letter here.isAsciiLetter
      rw [List.cons_append, List.map_cons, splitWords, notSeparator]
      simp only [Bool.false_eq_true, ↓reduceIte]
      cases letters with
      | cons d more =>
          have goesOn := endsWord_before_small here.isAsciiLetter (later d List.mem_cons_self)
            (more ++ rest)
          obtain ⟨others, split, filled⟩ := ih (by simp) later
          rw [List.cons_append] at split ⊢
          rw [goesOn, split]
          exact ⟨others, rfl, filled⟩
      | nil =>
          rw [List.nil_append]
          cases rest with
          | nil => exact ⟨[], rfl, rfl⟩
          | cons d more =>
              rcases closes d rfl with rfl | capital
              · have separator : Cluster.isSeparator ['_'] = true := rfl
                rw [endsWord_underscore, List.map_cons, splitWords, if_pos separator,
                  filledRow_underscore]
                exact ⟨_, rfl, rfl⟩
              · have lower := (CasedChar.of_letter here.isAsciiLetter).isLower.mpr here
                have upper := (CasedChar.of_letter capital.isAsciiLetter).isUpper.mpr capital
                have ends : Cluster.endsWord [c] ((d :: more).map ([·])) = true := by
                  simp [Cluster.endsWord, lower, upper]
                rw [ends]
                exact ⟨_, rfl, rfl⟩

theorem splitWords_capital {first : Char} {letters rest : List Char} (capital : IsCapital first)
    (nonempty : letters ≠ []) (small : ∀ c ∈ letters, IsSmall c) (closes : Closes rest) :
    ∃ others, splitWords ((first :: letters ++ rest).map ([·])) = (first :: letters) :: others ∧
      others.filter (!·.isEmpty) = filledRow rest := by
  obtain ⟨others, split, filled⟩ := splitWords_small nonempty small closes
  obtain ⟨d, more, rfl⟩ := List.exists_cons_of_ne_nil nonempty
  have goesOn := endsWord_before_small capital.isAsciiLetter (small d List.mem_cons_self)
    (more ++ rest)
  have notSeparator := not_isSeparator_of_letter capital.isAsciiLetter
  rw [List.cons_append] at split
  rw [List.cons_append, List.cons_append, List.map_cons, splitWords, notSeparator, goesOn, split]
  exact ⟨others, rfl, filled⟩

theorem splitWords_filled {pieces : List Cluster} (nonempty : pieces ≠ [])
    (filled : ∀ piece ∈ pieces, piece ≠ [] ∧ Cluster.isSeparator piece = false) :
    [] ∉ splitWords pieces := by
  induction pieces with
  | nil => contradiction
  | cons piece rest ih =>
      obtain ⟨⟨here, notSeparator⟩, later⟩ := List.forall_mem_cons.mp filled
      rw [splitWords, notSeparator]
      simp only [Bool.false_eq_true, ↓reduceIte]
      cases rest with
      | nil => simpa [Cluster.endsWord, splitWords] using here.symm
      | cons next others =>
          have ih := ih (by simp) later
          split
          · exact List.not_mem_cons_of_ne_of_not_mem here.symm ih
          · split
            next => simpa using here.symm
            next word words split =>
                rw [split] at ih
                refine List.not_mem_cons_of_ne_of_not_mem ?_ (List.not_mem_of_not_mem_cons ih)
                simp [here]

end ApiContracts.Text
