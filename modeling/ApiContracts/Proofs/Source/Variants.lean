import ApiContracts.Proofs.Naming.VariantName
import ApiContracts.Proofs.Source.Dtos
import Mathlib.Data.List.Induction
import Mathlib.Data.List.Nodup

/-!
The variants of an enumeration: what they are called in code, and under which names they are
written. A value whose identifier an earlier one has gets its position behind it, once; nothing
looks whether that is free.
-/

namespace ApiContracts

open Text Naming Lexical

namespace Dto

def identifiers (values : List String) : List String := variantIdentifiers [] 0 values

def numberedIdentifiers (values : List String) : List String :=
  let taken := values.zipIdx.filter fun (value, index) =>
    ((values.take index).map variantName).contains (variantName value)
  taken.map fun (value, index) => variantName value ++ toString index

theorem variantIdentifiers_congr {taken others : List String}
    (same : ∀ name, name ∈ taken ↔ name ∈ others) (index : Nat) (values : List String) :
    variantIdentifiers taken index values = variantIdentifiers others index values := by
  induction values generalizing taken others index with
  | nil => rfl
  | cons value rest ih =>
      have contained :
          taken.contains (variantName value) = others.contains (variantName value) := by
        rw [Bool.eq_iff_iff, List.contains_iff_mem, List.contains_iff_mem, same]
      rw [variantIdentifiers, variantIdentifiers, contained]
      split
      · exact congrArg _ (ih same _)
      · exact congrArg _ (ih (fun name => by simp [same]) _)

theorem variantIdentifiers_append (taken : List String) (index : Nat) (front back : List String) :
    variantIdentifiers taken index (front ++ back) = variantIdentifiers taken index front ++
      variantIdentifiers (taken ++ front.map variantName) (index + front.length) back := by
  induction front generalizing taken index with
  | nil => simp [variantIdentifiers]
  | cons value rest ih =>
      have next : index + 1 + rest.length = index + (value :: rest).length := by
        rw [List.length_cons]
        omega
      rw [List.cons_append, variantIdentifiers, variantIdentifiers]
      split
      next there =>
          have there : variantName value ∈ taken := by simpa using there
          have same (name : String) : name ∈ taken ++ rest.map variantName ↔
              name ∈ taken ++ (value :: rest).map variantName := by
            by_cases here : name = variantName value
            · simp [here, there]
            · simp [here]
          rw [ih, next, variantIdentifiers_congr same, List.cons_append]
      next =>
          have same (name : String) : name ∈ (variantName value :: taken) ++ rest.map variantName ↔
              name ∈ taken ++ (value :: rest).map variantName := by
            simp [or_left_comm]
          rw [ih, next, variantIdentifiers_congr same, List.cons_append]

theorem identifiers_snoc (front : List String) (value : String) :
    identifiers (front ++ [value]) = identifiers front ++
      [if variantName value ∈ front.map variantName then variantName value ++ toString front.length
        else variantName value] := by
  rw [identifiers, variantIdentifiers_append, variantIdentifiers, List.nil_append, Nat.zero_add]
  simp only [List.contains_iff_mem, identifiers]
  split
  · rfl
  · rfl

theorem numberedIdentifiers_snoc (front : List String) (value : String) :
    numberedIdentifiers (front ++ [value]) = numberedIdentifiers front ++
      if variantName value ∈ front.map variantName then [variantName value ++ toString front.length]
      else [] := by
  have before : front.zipIdx.filter (fun (old, index) =>
        (((front ++ [value]).take index).map variantName).contains (variantName old)) =
      front.zipIdx.filter fun (old, index) =>
        ((front.take index).map variantName).contains (variantName old) := by
    apply List.filter_congr
    rintro ⟨old, index⟩ member
    have bound : index ≤ front.length := by
      have := (List.mem_zipIdx member).2.1
      omega
    simp only [List.take_append_of_le_length bound]
  rw [numberedIdentifiers, numberedIdentifiers, List.zipIdx_append, List.filter_append, before,
    List.map_append]
  congr 1
  by_cases taken : variantName value ∈ front.map variantName
  · simp [taken]
  · simp [taken]

theorem mem_identifiers_iff (values : List String) (name : String) :
    name ∈ identifiers values ↔
      name ∈ values.map variantName ∨ name ∈ numberedIdentifiers values := by
  induction values using List.reverseRecOn with
  | nil => simp [identifiers, variantIdentifiers, numberedIdentifiers]
  | append_singleton front last ih =>
      rw [identifiers_snoc, numberedIdentifiers_snoc, List.mem_append, List.map_append,
        List.mem_append, List.mem_append, ih]
      by_cases taken : variantName last ∈ front.map variantName
      · rw [if_pos taken, if_pos taken, List.map_singleton, List.mem_singleton, List.mem_singleton]
        constructor
        · rintro ((plain | numbered) | here)
          · exact .inl (.inl plain)
          · exact .inr (.inl numbered)
          · exact .inr (.inr here)
        · rintro ((plain | rfl) | (numbered | here))
          · exact .inl (.inl plain)
          · exact .inl (.inl taken)
          · exact .inl (.inr numbered)
          · exact .inr here
      · rw [if_neg taken, if_neg taken, List.map_singleton, List.mem_singleton]
        simp only [List.not_mem_nil, or_false]
        exact or_right_comm

theorem identifiers_nodup_iff (values : List String) :
    (identifiers values).Nodup ↔ (numberedIdentifiers values).Nodup ∧
      ∀ name ∈ numberedIdentifiers values, name ∉ values.map variantName := by
  induction values using List.reverseRecOn with
  | nil => simp [identifiers, variantIdentifiers, numberedIdentifiers]
  | append_singleton front last ih =>
      rw [identifiers_snoc, numberedIdentifiers_snoc, List.nodup_append_comm,
        List.singleton_append, List.nodup_cons, mem_identifiers_iff, ih, List.map_append,
        List.map_singleton]
      by_cases taken : variantName last ∈ front.map variantName
      · rw [if_pos taken, if_pos taken, List.nodup_append_comm, List.singleton_append,
          List.nodup_cons]
        have known (name : String) : name ∈ front.map variantName ++ [variantName last] ↔
            name ∈ front.map variantName := by
          rw [List.mem_append, List.mem_singleton, or_iff_left_of_imp]
          rintro rfl
          exact taken
        simp only [known, List.forall_mem_append, List.forall_mem_singleton, not_or]
        constructor
        · rintro ⟨⟨notPlain, notNumbered⟩, distinct, apart⟩
          exact ⟨⟨notNumbered, distinct⟩, apart, notPlain⟩
        · rintro ⟨⟨notNumbered, distinct⟩, apart, notPlain⟩
          exact ⟨⟨notPlain, notNumbered⟩, distinct, apart⟩
      · rw [if_neg taken, if_neg taken, List.append_nil]
        simp only [List.mem_append, List.mem_singleton, not_or]
        constructor
        · rintro ⟨⟨_, notNumbered⟩, distinct, apart⟩
          refine ⟨distinct, fun name isNumbered => ⟨apart name isNumbered, ?_⟩⟩
          rintro rfl
          exact notNumbered isNumbered
        · rintro ⟨distinct, apart⟩
          refine ⟨⟨taken, fun isNumbered => (apart _ isNumbered).2 rfl⟩, distinct, ?_⟩
          exact fun name isNumbered => (apart name isNumbered).1

theorem mem_numberedIdentifiers {values : List String} {name : String}
    (member : name ∈ numberedIdentifiers values) :
    ∃ value ∈ values, ∃ index < values.length, name = variantName value ++ toString index := by
  obtain ⟨⟨value, index⟩, isTaken, rfl⟩ := List.mem_map.mp member
  obtain ⟨_, bound, there⟩ := List.mem_zipIdx (List.mem_filter.mp isTaken).1
  refine ⟨value, ?_, index, by omega, rfl⟩
  rw [there]
  exact List.getElem_mem _

def EndsPlain (name : String) : Prop := ∀ c ∈ name.toList.getLast?, isAsciiDigit c = false

instance (name : String) : Decidable (EndsPlain name) :=
  decidable_of_iff (name.toList.getLast?.all (!isAsciiDigit ·) = true)
    (by simp [EndsPlain, Option.all_eq_true])

theorem toString_toList (n : Nat) : (toString n).toList = Nat.toDigits 10 n := by
  rw [Nat.toString_eq_ofList_toDigits, String.toList_ofList]

theorem digits_of_toDigits (n : Nat) : ∀ c ∈ Nat.toDigits 10 n, isAsciiDigit c = true := by
  intro c member
  have digit : c.isDigit = true := Nat.isDigit_of_mem_toDigits (by decide) (by decide) member
  simpa [isAsciiDigit, Char.isDigit, Char.le_def] using digit

theorem numbered_not_endsPlain (name : String) (n : Nat) : ¬EndsPlain (name ++ toString n) := by
  intro plain
  rw [EndsPlain, String.toList_append, toString_toList] at plain
  obtain ⟨front, last, digits⟩ :=
    List.eq_nil_or_concat (Nat.toDigits 10 n) |>.resolve_left Nat.toDigits_ne_nil
  have isDigit := digits_of_toDigits n last (by simp [digits])
  have notDigit := plain last (by simp [digits])
  simp [isDigit] at notDigit

theorem nil_of_digits {front tail : List Char}
    (plain : ∀ c ∈ (front ++ tail).getLast?, isAsciiDigit c = false)
    (digits : ∀ c ∈ tail, isAsciiDigit c = true) : tail = [] := by
  rcases List.eq_nil_or_concat tail with rfl | ⟨others, last, rfl⟩
  · rfl
  · have isDigit := digits last (by simp)
    have notDigit := plain last (by simp)
    simp [isDigit] at notDigit

theorem numbered_inj {first second : String} {i j : Nat} (plain : EndsPlain first)
    (otherPlain : EndsPlain second) (same : first ++ toString i = second ++ toString j) :
    first = second ∧ i = j := by
  have chars : first.toList ++ Nat.toDigits 10 i = second.toList ++ Nat.toDigits 10 j := by
    rw [← toString_toList, ← toString_toList, ← String.toList_append, same, String.toList_append]
  have fronts : first.toList = second.toList := by
    -- What one text is longer by belongs to the digits of the other.
    rcases List.append_eq_append_iff.mp chars with ⟨more, longer, digits⟩ | ⟨more, longer, digits⟩
    · rw [EndsPlain, longer] at otherPlain
      have inside : ∀ c ∈ more, isAsciiDigit c = true := fun c member =>
        digits_of_toDigits i c (by simp [digits, member])
      rw [longer, nil_of_digits otherPlain inside, List.append_nil]
    · rw [EndsPlain, longer] at plain
      have inside : ∀ c ∈ more, isAsciiDigit c = true := fun c member =>
        digits_of_toDigits j c (by simp [digits, member])
      rw [longer, nil_of_digits plain inside, List.append_nil]
  rw [fronts, List.append_cancel_left_eq] at chars
  have numbers := congrArg (fun digits => Nat.ofDigitChars 10 digits 0) chars
  exact ⟨String.toList_inj.mp fronts, by simpa using numbers⟩

theorem identifiers_nodup {values : List String}
    (plain : ∀ value ∈ values, EndsPlain (variantName value)) : (identifiers values).Nodup := by
  have distinct : (numberedIdentifiers values).Nodup := by
    induction values using List.reverseRecOn with
    | nil => exact List.nodup_nil
    | append_singleton front last ih =>
        obtain ⟨early, late⟩ := List.forall_mem_append.mp plain
        rw [numberedIdentifiers_snoc]
        split
        next =>
            rw [List.nodup_append_comm, List.singleton_append, List.nodup_cons]
            refine ⟨?_, ih early⟩
            intro member
            obtain ⟨value, isValue, index, bound, same⟩ := mem_numberedIdentifiers member
            have positions := (numbered_inj (late last (by simp)) (early value isValue) same).2
            omega
        next =>
            rw [List.append_nil]
            exact ih early
  -- What has a position ends in a digit, and so it is no plain identifier.
  refine (identifiers_nodup_iff values).mpr ⟨distinct, ?_⟩
  intro name isNumbered isPlain
  obtain ⟨value, _, index, _, rfl⟩ := mem_numberedIdentifiers isNumbered
  obtain ⟨other, isOther, same⟩ := List.mem_map.mp isPlain
  exact numbered_not_endsPlain _ _ (same ▸ plain other isOther)

theorem identifiers_capitalized {values : List String} {name : String}
    (member : name ∈ identifiers values) : IsCapitalized name := by
  rcases (mem_identifiers_iff values name).mp member with isPlain | isNumbered
  · obtain ⟨value, _, rfl⟩ := List.mem_map.mp isPlain
    exact variantName_capitalized value
  · obtain ⟨value, _, index, _, rfl⟩ := mem_numberedIdentifiers isNumbered
    obtain ⟨c, rest, chars, capital, continues⟩ := variantName_capitalized value
    refine ⟨c, rest ++ Nat.toDigits 10 index, ?_, capital, ?_⟩
    · rw [String.toList_append, chars, toString_toList, List.cons_append]
    · refine List.forall_mem_append.mpr ⟨continues, ?_⟩
      intro d isDigit
      have digit := digits_of_toDigits index d isDigit
      rw [isAsciiDigit] at digit
      simp [continuesIdentifier, isAsciiAlphanumeric, digit]

theorem self_mem_identifiers_iff (values : List String) :
    "Self" ∈ identifiers values ↔ ∃ value ∈ values, filledWords value = ["self".toList] := by
  rw [mem_identifiers_iff]
  constructor
  · rintro (isPlain | isNumbered)
    · obtain ⟨value, isValue, same⟩ := List.mem_map.mp isPlain
      exact ⟨value, isValue, (variantName_eq_self_iff value).mp same⟩
    · obtain ⟨value, _, index, _, same⟩ := mem_numberedIdentifiers isNumbered
      exact absurd (same ▸ (by decide : EndsPlain "Self")) (numbered_not_endsPlain _ _)
  · rintro ⟨value, isValue, only⟩
    exact .inl (List.mem_map.mpr ⟨value, isValue, (variantName_eq_self_iff value).mpr only⟩)

/-- The variants that code declares, each by its identifier and by the name that its attribute gives
it on the wire. -/
def declaredVariants? : List Piece → Option (List (String × String))
  | [] => some []
  | .word opening :: .word ['='] :: .literal value :: .word closing :: .word name :: rest =>
    if opening = "#[serde(rename".toList ∧ closing = ")]".toList ∧ name.getLast? = some ',' then
      (declaredVariants? rest).map ((String.ofList name.dropLast, String.ofList value) :: ·)
    else none
  | _ => none

def variantPieces (variant : String × String) : List Piece :=
  [.word "#[serde(rename".toList, .word ['='], .literal variant.2.toList, .word ")]".toList,
    .word (variant.1.toList ++ [','])]

theorem declaredVariants?_pieces (variants : List (String × String)) :
    declaredVariants? (variants.flatMap variantPieces) = some variants := by
  induction variants with
  | nil => rfl
  | cons variant rest ih =>
      rw [List.flatMap_cons, variantPieces, List.cons_append, List.cons_append, List.cons_append,
        List.cons_append, List.cons_append, List.nil_append, declaredVariants?, ih]
      simp

theorem run_identifier {chars : List Char} (continues : ∀ c ∈ chars, continuesIdentifier c = true)
    (word : List Char) : run (.code word) chars = some ([], .code (word ++ chars)) := by
  induction chars generalizing word with
  | nil => simp [run]
  | cons c rest ih =>
      obtain ⟨first, others⟩ := List.forall_mem_cons.mp continues
      obtain ⟨notQuote, notTick, notSlash, notEnd⟩ :=
        (isQuiet_iff c).mp (isQuiet_of_continues first)
      have notBlank : c ≠ ' ' := by
        rintro rfl
        exact absurd first (by decide)
      have stepped : step (.code word) c = some ([], .code (word ++ [c])) := by
        simp [step, notBlank, notQuote, notTick, notSlash, notEnd]
      simpa using run_cons stepped (ih others (word ++ [c]))

theorem variantLines_reads {variant : String × String} (capitalized : IsCapitalized variant.1) :
    Reads (variantLines variant) (variantPieces variant) := by
  obtain ⟨name, value⟩ := variant
  have before : run (.code []) "    #[serde(rename = ".toList =
      some ([.word "#[serde(rename".toList, .word ['=']], .code []) := by
    decide +kernel
  have between : run (.code []) ")]\n    ".toList = some ([.word ")]".toList], .code []) := by
    decide +kernel
  have word := run_identifier capitalized.continues []
  have behind : run (.code name.toList) [',', '\n'] =
      some ([.word (name.toList ++ [','])], .code []) := by
    simp [run, step, flush]
  have all := run_trans before (run_trans (denotes_quoted value [] rfl)
    (run_trans between (run_trans word behind)))
  simpa [Reads, variantLines, written, variantPieces, flush] using all

theorem variants_read {variants : List (String × String)}
    (capitalized : ∀ variant ∈ variants, IsCapitalized variant.1) :
    Reads (variants.flatMap variantLines) (variants.flatMap variantPieces) := by
  induction variants with
  | nil => rfl
  | cons variant rest ih =>
      obtain ⟨first, others⟩ := List.forall_mem_cons.mp capitalized
      exact (variantLines_reads first).append (ih others)

theorem variants_eq (dto : Dto) : dto.variants = (identifiers dto.enumValues).zip dto.enumValues :=
  rfl

theorem variants_capitalized (dto : Dto) :
    ∀ variant ∈ dto.variants, IsCapitalized variant.1 := by
  intro variant member
  rw [variants_eq] at member
  exact identifiers_capitalized (List.of_mem_zip member).1

/-- An enumeration declares one variant for each value, in their order and with the value as the
name on the wire. A variant can be declared as it stands unless it is the keyword that a value with
the only word `self` gives. The variants are different just if those with a position are, among each
other and from the plain ones; it is enough that no plain one ends in a digit. -/
theorem variants_exact (dto : Dto) :
    (dto.isEnum = true → dto.enumLines <:+ dto.source) ∧
      (∃ pieces, Reads (dto.variants.flatMap variantLines) pieces ∧
        declaredVariants? pieces = some ((identifiers dto.enumValues).zip dto.enumValues)) ∧
      (identifiers dto.enumValues).length = dto.enumValues.length ∧
      (∀ name ∈ identifiers dto.enumValues, IsPlainName name ↔ name ≠ "Self") ∧
      ("Self" ∈ identifiers dto.enumValues ↔
        ∃ value ∈ dto.enumValues, filledWords value = ["self".toList]) ∧
      ((identifiers dto.enumValues).Nodup ↔ (numberedIdentifiers dto.enumValues).Nodup ∧
        ∀ name ∈ numberedIdentifiers dto.enumValues, name ∉ dto.enumValues.map variantName) ∧
      ((∀ value ∈ dto.enumValues, EndsPlain (variantName value)) →
        (identifiers dto.enumValues).Nodup) := by
  refine ⟨?_, ?_, variantIdentifiers_length _ _ _, ?_, self_mem_identifiers_iff _,
    identifiers_nodup_iff _, identifiers_nodup⟩
  · intro isEnum
    rw [source_of_isEnum isEnum]
    exact List.suffix_append _ _
  · refine ⟨_, variants_read dto.variants_capitalized, ?_⟩
    rw [declaredVariants?_pieces, variants_eq]
  · intro name member
    exact isPlainName_of_capitalized (identifiers_capitalized member)

def scale : Dto :=
  { name := "ScaleDto"
    sourceModel := "Scale"
    description := none
    properties := []
    enumValues := ["a", "A", "a1"] }

theorem scale_variants :
    scale.enumValues.Nodup ∧
      scale.variants.map (·.1) = ["A", "A1", "A1"] ∧
      ¬(scale.variants.map (·.1)).Nodup ∧
      (Dto.variants { scale with enumValues := ["self"] }).map (·.1) = ["Self"] ∧
      ¬IsPlainName "Self" := by
  have names : scale.variants.map (·.1) = ["A", "A1", "A1"] := by decide +kernel
  refine ⟨by decide, names, ?_, by decide +kernel, ?_⟩
  · rw [names]
    decide
  · intro plain
    exact plain.notKeyword (by decide)

end Dto

end ApiContracts
