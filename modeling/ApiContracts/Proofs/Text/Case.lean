import ApiContracts.Text.Case

/-!
What a change of case does to single characters: it brings no character below the letters into a
text, and on ASCII it goes character by character.
-/

namespace ApiContracts.Text

theorem of_asciiCodes (property : Char → Prop)
    (all : ∀ code, code < 128 → property (Char.ofNat code)) {c : Char} (ascii : c.toNat < 128) :
    property c := by
  have holds := all c.toNat ascii
  rwa [Char.ofNat_toNat] at holds

def IsLow (c : Char) : Prop := 0 < c.toNat ∧ c.toNat < 0x40

instance (c : Char) : Decidable (IsLow c) := inferInstanceAs (Decidable (_ ∧ _))

theorem not_isLow_ofNat {code : Nat} (high : 0x40 ≤ code) : ¬IsLow (Char.ofNat code) := by
  rintro ⟨positive, below⟩
  by_cases valid : code.isValidChar
  · have same : (Char.ofNat code).toNat = code := by
      rw [Char.ofNat, dif_pos valid]
      rfl
    omega
  · have isNull : (Char.ofNat code).toNat = 0 := by
      rw [Char.ofNat, dif_neg valid]
      rfl
    omega

theorem mapCase_low {runs : List CaseTable.Run} {expansions : List (Nat × List Nat)}
    (runsHigh : ∀ run ∈ runs, (0x40 : Int) ≤ run.1 + run.2.2.2)
    (expansionsHigh : ∀ expansion ∈ expansions, ∀ code ∈ expansion.2, 0x40 ≤ code)
    {c d : Char} (low : IsLow c) (member : c ∈ mapCase runs expansions d) : c = d := by
  rw [mapCase] at member
  split at member
  next codes found =>
      obtain ⟨code, isCode, rfl⟩ := List.mem_map.mp member
      have high := expansionsHigh _ (List.mem_of_find?_eq_some found) code isCode
      exact absurd low (not_isLow_ofNat high)
  next =>
      split at member
      next first last step offset found =>
          have bounds := List.find?_some found
          have high := runsHigh _ (List.mem_of_find?_eq_some found)
          simp only [Bool.and_eq_true, decide_eq_true_eq] at bounds high
          rw [List.mem_singleton] at member
          rw [member] at low
          exact absurd low (not_isLow_ofNat (by omega))
      next => simpa using member

theorem lowerChar_low {c d : Char} (low : IsLow c) (member : c ∈ lowerChar d) : c = d := by
  rw [lowerChar] at member
  split at member
  next ascii =>
      have unchanged : IsLow d.toLower → d.toLower = d :=
        of_asciiCodes (fun d => IsLow d.toLower → d.toLower = d) (by decide) ascii
      rw [List.mem_singleton] at member
      rw [member] at low ⊢
      exact unchanged low
  next => exact mapCase_low (by decide +kernel) (by decide +kernel) low member

theorem upperChar_low {c d : Char} (low : IsLow c) (member : c ∈ upperChar d) : c = d := by
  rw [upperChar] at member
  split at member
  next ascii =>
      have unchanged : IsLow d.toUpper → d.toUpper = d :=
        of_asciiCodes (fun d => IsLow d.toUpper → d.toUpper = d) (by decide) ascii
      rw [List.mem_singleton] at member
      rw [member] at low ⊢
      exact unchanged low
  next => exact mapCase_low (by decide +kernel) (by decide +kernel) low member

theorem lowerAfter_low {c : Char} (low : IsLow c) {before text : List Char}
    (member : c ∈ lowerAfter before text) : c ∈ text := by
  induction text generalizing before with
  | nil => simp [lowerAfter] at member
  | cons d rest ih =>
      rw [lowerAfter, List.mem_append] at member
      rcases member with image | later
      · split at image
        · rw [List.mem_singleton] at image
          rw [image] at low
          exact absurd low (not_isLow_ofNat (by omega))
        · rw [lowerChar_low low image]
          exact List.mem_cons_self
      · exact List.mem_cons_of_mem _ (ih later)

theorem lower_low {c : Char} (low : IsLow c) {text : List Char} (member : c ∈ lower text) :
    c ∈ text :=
  lowerAfter_low low member

theorem mem_lower_of_low {c : Char} (low : IsLow c) {text : List Char} (member : c ∈ text) :
    c ∈ lower text := by
  have stays : c.toLower = c := by
    have ascii : c.toNat < 128 := Nat.lt_trans low.2 (by decide)
    exact of_asciiCodes (fun c => IsLow c → c.toLower = c) (by decide) ascii low
  have notSigma : (c.toNat == 0x3A3) = false := by
    rw [beq_eq_false_iff_ne]
    have := low.2
    omega
  have all (before : List Char) : c ∈ lowerAfter before text := by
    induction text generalizing before with
    | nil => simp at member
    | cons d rest ih =>
        rw [lowerAfter, List.mem_append]
        rcases List.mem_cons.mp member with rfl | later
        · left
          simp [notSigma, lowerChar, Nat.lt_trans low.2, stays]
        · exact .inr (ih later _)
  exact all []

theorem lowerAfter_ascii {text : List Char} (ascii : ∀ c ∈ text, c.toNat < 128)
    (before : List Char) : lowerAfter before text = text.map Char.toLower := by
  induction text generalizing before with
  | nil => rfl
  | cons c rest ih =>
      have small : c.toNat < 128 := ascii c (by simp)
      have notSigma : (c.toNat == 0x3A3) = false := by
        rw [beq_eq_false_iff_ne]
        omega
      rw [lowerAfter, ih (fun d member => ascii d (by simp [member]))]
      simp [notSigma, lowerChar, small]

theorem lowerAfter_suffix {ending : List Char} (ascii : ∀ c ∈ ending, c.toNat < 128)
    (before front : List Char) :
    ending.map Char.toLower <:+ lowerAfter before (front ++ ending) := by
  induction front generalizing before with
  | nil =>
      have same : lowerAfter before ending = ending.map Char.toLower :=
        lowerAfter_ascii ascii before
      exact same.symm ▸ List.suffix_refl _
  | cons c rest ih =>
      rw [List.cons_append, lowerAfter]
      exact (ih (c :: before)).trans (List.suffix_append _ _)

end ApiContracts.Text
