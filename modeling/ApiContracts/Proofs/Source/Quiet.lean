import ApiContracts.Contract.Source
import ApiContracts.Proofs.Plan.Identifiers
import ApiContracts.Proofs.Source.Lines
import ApiContracts.Proofs.Types.RoundTrip

/-!
What the sources take into their code and comments. Derived names, types and numbers are code and
nothing else, as long as the names of models are; documentation is cut into single lines.
-/

namespace ApiContracts

open Text Lexical

namespace Lexical

theorem isQuiet_of {property : Char → Bool} (leavesOut : property '"' = false ∧
    property '\x27' = false ∧ property '/' = false ∧ property '\n' = false) {c : Char}
    (holds : property c = true) : isQuiet c = true := by
  obtain ⟨noQuote, noTick, noSlash, noEnd⟩ := leavesOut
  rw [isQuiet_iff]
  refine ⟨?_, ?_, ?_, ?_⟩
  · rintro rfl
    simp [noQuote] at holds
  · rintro rfl
    simp [noTick] at holds
  · rintro rfl
    simp [noSlash] at holds
  · rintro rfl
    simp [noEnd] at holds

theorem isQuiet_of_continues {c : Char} (continues : continuesIdentifier c = true) :
    isQuiet c = true :=
  isQuiet_of (by decide) continues

theorem isBare_of_continues {c : Char} (continues : continuesIdentifier c = true) :
    isBare c = true := by
  rw [isBare_iff]
  refine ⟨?_, ?_, ?_⟩
  · rintro rfl
    exact absurd continues (by decide)
  · rintro rfl
    exact absurd continues (by decide)
  · rintro rfl
    exact absurd continues (by decide)

theorem isQuiet_of_isDigit {c : Char} (digit : c.isDigit = true) : isQuiet c = true :=
  isQuiet_of (by decide) digit

theorem isQuiet_or_isLow (c : Char) : isQuiet c = true ∨ IsLow c := by
  by_cases low : IsLow c
  · exact .inr low
  · left
    rw [isQuiet_iff]
    refine ⟨?_, ?_, ?_, ?_⟩ <;> (rintro rfl; exact low (by decide))

theorem snake_quiet {text : List Char} (quiet : ∀ c ∈ text, isQuiet c = true) :
    ∀ c ∈ snake text, isQuiet c = true := by
  intro c member
  rcases isQuiet_or_isLow c with isQuiet | low
  · exact isQuiet
  · exact quiet c (snake_low low member)

theorem Quiet.oneLine {text : String} (quiet : Quiet text) : '\n' ∉ text.toList :=
  fun member => absurd (quiet '\n' member) (by decide)

end Lexical

namespace Naming

theorem dtoName_quiet {modelName : String} (quiet : Quiet modelName) : Quiet (dtoName modelName) := by
  rw [dtoName]
  split
  · exact quiet
  · exact quiet_append quiet (by decide)

theorem fileStem_quiet {name : String} (quiet : Quiet name) : Quiet (fileStem name) := by
  rw [Quiet, fileStem, String.toList_ofList]
  exact snake_quiet quiet

theorem pascalCase_continues (text : String) :
    ∀ c ∈ (pascalCase text).toList, continuesIdentifier c = true := by
  rw [pascalCase, String.toList_ofList]
  exact pascal_continues (clean_continues _)

theorem fieldWord_quiet (wireName : String) : ∀ c ∈ fieldWord wireName, isQuiet c = true := by
  have word : ∀ c ∈ snake (clean wireName.toList), isQuiet c = true :=
    snake_quiet fun c member => isQuiet_of_continues (clean_continues _ c member)
  rw [fieldWord]
  split
  · exact List.all_eq_true.mp (by decide)
  next c rest split =>
      rw [split] at word
      split
      · exact List.forall_mem_cons.mpr ⟨by decide, word⟩
      · exact word

theorem fieldName_quiet (wireName : String) : Quiet (fieldName wireName) := by
  have word : Quiet (String.ofList (fieldWord wireName)) := by
    rw [Quiet, String.toList_ofList]
    exact fieldWord_quiet wireName
  rw [fieldName]
  split
  · exact quiet_append word (by decide)
  · split
    · exact quiet_append (by decide) word
    · exact word

theorem variantName_quiet (value : String) : Quiet (variantName value) := by
  have word : ∀ c ∈ pascal (clean value.toList), isQuiet c = true :=
    fun c member => isQuiet_of_continues (pascal_continues (clean_continues _) c member)
  rw [variantName]
  split
  · decide
  next c rest split =>
      rw [split] at word
      rw [Quiet, String.toList_ofList]
      split
      · exact List.forall_mem_cons.mpr ⟨by decide, word⟩
      · exact word

end Naming

theorem requestName_continues (kind : RequestKind) (operationId : String) :
    ∀ c ∈ (requestName kind operationId).toList, continuesIdentifier c = true := by
  have stem := Naming.pascalCase_continues operationId
  cases kind with
  | command =>
      rw [requestName, Naming.commandName, String.toList_append, List.forall_mem_append]
      exact ⟨stem, List.all_eq_true.mp (by decide)⟩
  | query =>
      rw [requestName, Naming.queryName, String.toList_append, List.forall_mem_append]
      exact ⟨stem, List.all_eq_true.mp (by decide)⟩

theorem requestName_quiet (kind : RequestKind) (operationId : String) :
    Quiet (requestName kind operationId) :=
  fun c member => isQuiet_of_continues (requestName_continues kind operationId c member)

theorem Scalar.spelling_quiet (s : Scalar) : Quiet s.spelling := by
  cases s <;> decide +kernel

theorem TypeExpr.render_quiet {type : TypeExpr} (quiet : ∀ name ∈ type.references, Quiet name) :
    Quiet type.render := by
  rw [Quiet, render, String.toList_ofList]
  induction type with
  | scalar s => exact s.spelling_quiet
  | reference name => exact quiet name (by simp [references])
  | array element ih =>
      simp only [chars_array, List.forall_mem_append, List.forall_mem_cons]
      exact ⟨List.all_eq_true.mp (by decide), by decide, ih quiet, by decide, by simp⟩
  | map key value ihKey ihValue =>
      rw [references, List.forall_mem_append] at quiet
      simp only [chars_map, List.forall_mem_append, List.forall_mem_cons]
      exact ⟨List.all_eq_true.mp (by decide), by decide, ihKey quiet.1, by decide, by decide,
        ihValue quiet.2, by decide, by simp⟩

theorem toDigits_quiet (n : Nat) : ∀ c ∈ Nat.toDigits 10 n, isQuiet c = true :=
  fun _ member => isQuiet_of_isDigit (Nat.isDigit_of_mem_toDigits (by decide) (by decide) member)

theorem toString_quiet (n : Nat) : Quiet (toString n) := by
  rw [Quiet, Nat.toString_eq_ofList_toDigits, String.toList_ofList]
  exact toDigits_quiet n

theorem int_toString_quiet (n : Int) : Quiet (toString n) := by
  cases n with
  | ofNat n => exact toString_quiet n
  | negSucc n => exact quiet_append (by decide) (toString_quiet (n + 1))

namespace Decimal.FloatFormat

theorem positional_quiet (format : FloatFormat) {digits : List Char}
    (quiet : ∀ c ∈ digits, isQuiet c = true) (point : Int) :
    ∀ c ∈ format.positional digits point, isQuiet c = true := by
  have zeros (count : Nat) : ∀ c ∈ List.replicate count '0', isQuiet c = true := by
    intro c member
    rw [List.eq_of_mem_replicate member]
    decide
  rw [positional]
  split
  · simp only [List.forall_mem_append]
    exact ⟨⟨List.all_eq_true.mp (by decide), zeros _⟩, quiet⟩
  · split
    · simp only [List.forall_mem_append]
      refine ⟨⟨quiet, zeros _⟩, ?_⟩
      split <;> exact List.all_eq_true.mp (by decide)
    · simp only [List.forall_mem_append]
      exact ⟨⟨fun c member => quiet c (List.mem_of_mem_take member), List.all_eq_true.mp (by decide)⟩,
        fun c member => quiet c (List.mem_of_mem_drop member)⟩

theorem exponential_quiet {digits : List Char} (quiet : ∀ c ∈ digits, isQuiet c = true)
    (point : Int) : ∀ c ∈ exponential digits point, isQuiet c = true := by
  simp only [exponential, List.forall_mem_append]
  refine ⟨⟨⟨fun c member => quiet c (List.mem_of_mem_take member), ?_⟩,
    List.all_eq_true.mp (by decide)⟩, int_toString_quiet _⟩
  split
  · exact List.forall_mem_cons.mpr
      ⟨by decide, fun c member => quiet c (List.mem_of_mem_drop member)⟩
  · simp

theorem render_quiet (format : FloatFormat) (x : Float) :
    ∀ c ∈ format.render x, isQuiet c = true := by
  have signed {digits : List Char} (negative : Prop) [Decidable negative]
      (quiet : ∀ c ∈ digits, isQuiet c = true) :
      ∀ c ∈ (if negative then ['-'] else []) ++ digits, isQuiet c = true := by
    rw [List.forall_mem_append]
    refine ⟨?_, quiet⟩
    split <;> exact List.all_eq_true.mp (by decide)
  simp only [render]
  split
  · exact List.all_eq_true.mp (by decide)
  · split
    · exact signed _ (List.all_eq_true.mp (by decide))
    · split
      · apply signed
        split <;> exact List.all_eq_true.mp (by decide)
      · apply signed
        rw [renderDecimal]
        split
        · exact positional_quiet format (toDigits_quiet _) _
        · exact exponential_quiet (toDigits_quiet _) _

end Decimal.FloatFormat

theorem docLines_oneLine (description : Option String) :
    ∀ line ∈ docLines description, '\n' ∉ line.toList := by
  intro line member
  cases description with
  | none => simp [docLines] at member
  | some text =>
      obtain ⟨piece, isLine, rfl⟩ : ∃ piece ∈ lines text.toList,
          String.ofList (trimEnd piece) = line := by
        simpa [docLines] using member
      have isPiece : piece ∈ splitAt (· == '\n') text.toList := by
        rw [lines] at isLine
        split at isLine
        · exact (List.dropLast_sublist _).mem isLine
        · exact isLine
      rw [String.toList_ofList, trimEnd, dropEndWhile, List.mem_reverse]
      intro ending
      have inPiece := List.mem_reverse.mp ((List.dropWhile_sublist _).mem ending)
      simpa using mem_splitAt_uncut isPiece '\n' inPiece

end ApiContracts
