import ApiContracts.Naming
import ApiContracts.Proofs.Text.Ending

/-!
Identifiers: which texts can stand at the beginning of one, and what Pascal case makes of a cleaned
text. Its first character is the first letter or digit of the text.
-/

namespace ApiContracts.Text

def isAsciiLetter (c : Char) : Bool := ('a' ≤ c && c ≤ 'z') || ('A' ≤ c && c ≤ 'Z')

def startsIdentifier (c : Char) : Bool := isAsciiLetter c || c == '_'

def continuesIdentifier (c : Char) : Bool := isAsciiAlphanumeric c || c == '_'

def isIdentifier (name : String) : Bool :=
  match name.toList with
  | [] => false
  | first :: rest => startsIdentifier first && rest.all continuesIdentifier

structure BeginsIdentifier (text : List Char) : Prop where
  continues : ∀ c ∈ text, continuesIdentifier c = true
  start : ∀ c ∈ text.head?, isAsciiDigit c = false

instance (text : List Char) : Decidable (BeginsIdentifier text) := by
  refine decidable_of_iff
    (text.all continuesIdentifier = true ∧ text.head?.all (!isAsciiDigit ·) = true) ?_
  simp only [List.all_eq_true, Option.all_eq_true, Bool.not_eq_true']
  exact ⟨fun ⟨continues, start⟩ => ⟨continues, start⟩,
    fun ⟨continues, start⟩ => ⟨continues, start⟩⟩

theorem continuesIdentifier_ascii {c : Char} (continues : continuesIdentifier c = true) :
    c.toNat < 128 := by
  have atMost {d : Char} (below : c ≤ d) (small : d.toNat < 128) : c.toNat < 128 :=
    Nat.lt_of_le_of_lt below small
  simp only [continuesIdentifier, isAsciiAlphanumeric, Bool.or_eq_true, Bool.and_eq_true,
    decide_eq_true_eq, beq_iff_eq] at continues
  rcases continues with ((⟨_, small⟩ | ⟨_, capital⟩) | ⟨_, digit⟩) | rfl
  · exact atMost small (by decide)
  · exact atMost capital (by decide)
  · exact atMost digit (by decide)
  · decide

theorem alphanumeric_ascii {c : Char} (letter : isAsciiAlphanumeric c = true) : c.toNat < 128 :=
  continuesIdentifier_ascii (by simp [continuesIdentifier, letter])

structure IdentifierChar (c : Char) : Prop where
  starts : startsIdentifier c = !isAsciiDigit c
  role : ClusterRole.of c = .other
  separates : Cluster.isSeparator [c] = !isAsciiAlphanumeric c
  upper : continuesIdentifier c.toUpper = true
  upperDigit : isAsciiDigit c.toUpper = isAsciiDigit c
  lower : continuesIdentifier c.toLower = true

instance (c : Char) : Decidable (IdentifierChar c) :=
  decidable_of_iff (startsIdentifier c = (!isAsciiDigit c) ∧ ClusterRole.of c = .other ∧
      Cluster.isSeparator [c] = (!isAsciiAlphanumeric c) ∧ continuesIdentifier c.toUpper = true ∧
      isAsciiDigit c.toUpper = isAsciiDigit c ∧ continuesIdentifier c.toLower = true)
    ⟨fun ⟨starts, role, separates, upper, upperDigit, lower⟩ =>
        ⟨starts, role, separates, upper, upperDigit, lower⟩,
      fun all => ⟨all.starts, all.role, all.separates, all.upper, all.upperDigit, all.lower⟩⟩

theorem IdentifierChar.of_continues {c : Char} (continues : continuesIdentifier c = true) :
    IdentifierChar c :=
  -- No character beyond ASCII is in an identifier, so the codes below 128 are all there is to see.
  of_asciiCodes (fun c => continuesIdentifier c = true → IdentifierChar c) (by decide +kernel)
    (continuesIdentifier_ascii continues) continues

theorem startsIdentifier_iff (c : Char) :
    startsIdentifier c = true ↔ continuesIdentifier c = true ∧ isAsciiDigit c = false := by
  constructor
  · intro starts
    have continues : continuesIdentifier c = true := by
      simp only [startsIdentifier, isAsciiLetter, Bool.or_eq_true] at starts
      simp only [continuesIdentifier, isAsciiAlphanumeric, Bool.or_eq_true]
      exact starts.imp_left .inl
    refine ⟨continues, ?_⟩
    simpa [(IdentifierChar.of_continues continues).starts] using starts
  · rintro ⟨continues, notDigit⟩
    rw [(IdentifierChar.of_continues continues).starts, notDigit]
    rfl

theorem isIdentifier_iff (name : String) :
    isIdentifier name = true ↔ name ≠ "" ∧ BeginsIdentifier name.toList := by
  rw [isIdentifier]
  cases chars : name.toList with
  | nil =>
      obtain rfl := String.toList_eq_nil_iff.mp chars
      simp
  | cons first rest =>
      have nonempty : name ≠ "" := by
        rintro rfl
        simp at chars
      simp only [Bool.and_eq_true, startsIdentifier_iff, List.all_eq_true]
      constructor
      · rintro ⟨⟨continues, notDigit⟩, later⟩
        exact ⟨nonempty, List.forall_mem_cons.mpr ⟨continues, later⟩, by simpa using notDigit⟩
      · rintro ⟨_, continues, start⟩
        obtain ⟨here, later⟩ := List.forall_mem_cons.mp continues
        exact ⟨⟨here, start first (by simp)⟩, later⟩

theorem isIdentifier_append_iff (text : String) {word : String}
    (isWord : isIdentifier word = true) :
    isIdentifier (text ++ word) = true ↔ BeginsIdentifier text.toList := by
  obtain ⟨nonempty, wordContinues, wordStart⟩ := (isIdentifier_iff word).mp isWord
  rw [isIdentifier_iff, String.toList_append]
  constructor
  · rintro ⟨_, continues, start⟩
    refine ⟨fun c member => continues c (List.mem_append_left _ member), ?_⟩
    intro c first
    exact start c (by simp [List.head?_append, Option.mem_def.mp first])
  · rintro ⟨continues, start⟩
    refine ⟨by simp [nonempty], List.forall_mem_append.mpr ⟨continues, wordContinues⟩, ?_⟩
    cases chars : text.toList with
    | nil => exact wordStart
    | cons first rest => simpa [chars] using start

theorem capitalize_ascii {first : Char} {rest : List Char}
    (ascii : ∀ c ∈ first :: rest, c.toNat < 128) :
    capitalize (first :: rest) = first.toUpper :: rest.map Char.toLower := by
  obtain ⟨here, later⟩ := List.forall_mem_cons.mp ascii
  rw [capitalize, upperChar, if_pos here, lower, lowerAfter_ascii later]
  rfl

theorem capitalize_continues {word : List Char}
    (continues : ∀ c ∈ word, continuesIdentifier c = true) :
    ∀ c ∈ capitalize word, continuesIdentifier c = true := by
  cases word with
  | nil => simp [capitalize]
  | cons first rest =>
      rw [capitalize_ascii fun c member => continuesIdentifier_ascii (continues c member)]
      obtain ⟨here, later⟩ := List.forall_mem_cons.mp continues
      refine List.forall_mem_cons.mpr ⟨(IdentifierChar.of_continues here).upper, ?_⟩
      intro c member
      obtain ⟨d, isRest, rfl⟩ := List.mem_map.mp member
      exact (IdentifierChar.of_continues (later d isRest)).lower

theorem capitalize_flatten_head? {words : List (List Char)}
    (ascii : ∀ c ∈ words.flatten, c.toNat < 128) :
    (words.map capitalize).flatten.head? = words.flatten.head?.map Char.toUpper := by
  induction words with
  | nil => rfl
  | cons word others ih =>
      rw [List.flatten_cons, List.forall_mem_append] at ascii
      cases word with
      | nil => exact ih ascii.2
      | cons first rest =>
          rw [List.map_cons, capitalize_ascii ascii.1]
          rfl

theorem flatten_words_continues {text : List Char}
    (continues : ∀ c ∈ text, continuesIdentifier c = true) :
    (words text).flatten = text.filter isAsciiAlphanumeric := by
  have chars (c : Char) (member : c ∈ text) : IdentifierChar c := .of_continues (continues c member)
  have kept : text.filter ((!Cluster.isSeparator ·) ∘ ([·])) = text.filter isAsciiAlphanumeric := by
    apply List.filter_congr
    intro c member
    simp [(chars c member).separates]
  rw [flatten_words, clusters_other fun c member => (chars c member).role, List.filter_map, kept,
    ← List.flatMap_def]
  exact List.flatMap_singleton' _

theorem pascal_continues {text : List Char} (continues : ∀ c ∈ text, continuesIdentifier c = true) :
    ∀ c ∈ pascal text, continuesIdentifier c = true := by
  intro c member
  rw [pascal, List.mem_flatten] at member
  obtain ⟨piece, isPiece, inPiece⟩ := member
  obtain ⟨word, isWord, rfl⟩ := List.mem_map.mp isPiece
  exact capitalize_continues (fun d inWord => continues d (mem_words isWord inWord)) c inPiece

theorem pascal_head? {text : List Char} (continues : ∀ c ∈ text, continuesIdentifier c = true) :
    (pascal text).head? = (text.find? isAsciiAlphanumeric).map Char.toUpper := by
  have letters := flatten_words_continues continues
  rw [pascal, capitalize_flatten_head?, letters, List.head?_filter]
  intro c member
  rw [letters] at member
  exact continuesIdentifier_ascii (continues c (List.mem_filter.mp member).1)

end ApiContracts.Text

namespace ApiContracts.Naming

open Text

theorem clean_continues (text : List Char) : ∀ c ∈ clean text, continuesIdentifier c = true := by
  intro c member
  obtain ⟨d, _, rfl⟩ := List.mem_map.mp member
  split
  next letter => simp [continuesIdentifier, letter]
  next => rfl

theorem clean_letters {text : List Char} (letters : ∀ c ∈ text, isAsciiAlphanumeric c = true) :
    clean text = text := by
  have kept : ∀ c ∈ text, (if isAsciiAlphanumeric c then c else '_') = c :=
    fun c member => if_pos (letters c member)
  rw [clean, List.map_congr_left kept, List.map_id']

end ApiContracts.Naming
