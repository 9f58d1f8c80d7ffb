import ApiContracts.Proofs.Types.Exactness
import ApiContracts.Proofs.Types.Parts

/-!
A rendered type is read as itself, however deep it nests, as long as the names in it are words of
their own.
-/

namespace ApiContracts.TypeExpr

open Text

/-- A name that is read as a reference: a plain word that neither a container nor a byte goes by,
and a scalar only if it is a model as well. -/
structure Readable (isModel : String → Bool) (name : String) : Prop where
  nonempty : name ≠ ""
  plain : ∀ c ∈ name.toList, isAsciiAlphanumeric c = true ∨ c = '_' ∨ c = '-'
  notArray : name ∉ arrayContainers
  notMap : name ∉ mapContainers
  notByte : name ≠ "u8"
  resolved : isModel name = true ∨ Scalar.ofName? name.toList = none

instance (isModel : String → Bool) (name : String) : Decidable (Readable isModel name) :=
  decidable_of_iff (name ≠ "" ∧
      name.toList.all (fun c => isAsciiAlphanumeric c || c == '_' || c == '-') = true ∧
      name ∉ arrayContainers ∧ name ∉ mapContainers ∧ name ≠ "u8" ∧
      (isModel name = true ∨ Scalar.ofName? name.toList = none))
    ⟨fun ⟨nonempty, plain, notArray, notMap, notByte, resolved⟩ =>
        ⟨nonempty, by simpa [or_assoc] using plain, notArray, notMap, notByte, resolved⟩,
      fun readable => ⟨readable.nonempty, by simpa [or_assoc] using readable.plain,
        readable.notArray, readable.notMap, readable.notByte, readable.resolved⟩⟩

def scalarPhrase : Scalar → Phrase
  | .dateTime => .applied "chrono::DateTime".toList (.last (.path "chrono::Utc".toList))
  | .binary => .applied "Vec".toList (.last (.path "u8".toList))
  | .unit => .unit
  | s => .path s.spelling.toList

def phraseOf : TypeExpr → Phrase
  | scalar s => scalarPhrase s
  | reference name => .path name.toList
  | array element => .applied "Vec".toList (.last (phraseOf element))
  | map key value => .applied "HashMap".toList (.more (phraseOf key) (.last (phraseOf value)))

theorem chars_scalar (s : Scalar) : (scalar s).chars = s.spelling.toList := rfl

theorem chars_reference (name : String) : (reference name).chars = name.toList := rfl

theorem chars_array (element : TypeExpr) :
    (array element).chars = "Vec".toList ++ '<' :: (element.chars ++ ['>']) := by
  rw [show (array element).chars = "Vec<".toList ++ element.chars ++ ['>'] from rfl]
  simp

theorem chars_map (key value : TypeExpr) :
    (map key value).chars =
      "HashMap".toList ++ '<' :: (key.chars ++ ',' :: ' ' :: (value.chars ++ ['>'])) := by
  rw [show (map key value).chars =
    "HashMap<".toList ++ key.chars ++ [',', ' '] ++ value.chars ++ ['>'] from rfl]
  simp

/-! ### Names -/

theorem Readable.isRun {isModel : String → Bool} {name : String}
    (readable : Readable isModel name) : PathRun name.toList := by
  have all : ∀ run : List Char, (∀ c ∈ run, isAsciiAlphanumeric c = true ∨ c = '_' ∨ c = '-') →
      PathRun run := by
    intro run plain
    induction run with
    | nil => exact .nil
    | cons c rest ih =>
        refine .char ?_ (ih fun d member => plain d (by simp [member]))
        rcases plain c (by simp) with letter | rfl | rfl <;> simp [isPathChar, *]
  exact all name.toList readable.plain

theorem untilColons_plain {text : List Char} (noColon : ':' ∉ text) :
    Scalar.untilColons text = text := by
  fun_induction Scalar.untilColons text with
  | case1 => rfl
  | case2 => simp at noColon
  | case3 c rest _ ih => simp_all

theorem Readable.lastSegment {isModel : String → Bool} {name : String}
    (readable : Readable isModel name) :
    String.ofList (Scalar.lastSegment name.toList) = name := by
  have noColon : ':' ∉ name.toList.reverse := by
    intro member
    have plain := readable.plain ':' (by simpa using member)
    exact absurd plain (by decide)
  rw [Scalar.lastSegment, untilColons_plain noColon, List.reverse_reverse, String.ofList_toList]

/-! ### Spelling -/

theorem spelled_applied {run : List Char} (isRun : PathRun run) (nonempty : run ≠ [])
    {tokens : List Token} {text : List Char} (spelled : Spelled tokens text) :
    Spelled (.path run :: .mark '<' :: tokens) (run ++ '<' :: text) :=
  .path nonempty isRun (punctuation_single (by decide) text) (spelled.marked (by decide))

theorem spelled_scalar (s : Scalar) {later : List Token} {rest : List Char}
    (spelled : Spelled later rest) (ends : startsPath rest = false) :
    Spelled ((scalarPhrase s).tokens ++ later) (s.spelling.toList ++ rest) := by
  have close : Spelled (.mark '>' :: later) ('>' :: rest) := spelled.marked (by decide)
  cases s with
  | unit => exact (spelled.marked (by decide)).marked (by decide)
  | dateTime =>
      have inside : Spelled (.path "chrono::Utc".toList :: .mark '>' :: later)
          ("chrono::Utc".toList ++ '>' :: rest) :=
        .path (by decide) (by decide) (punctuation_single (by decide) rest) close
      have isRun : PathRun "chrono::DateTime".toList := by decide
      have whole := spelled_applied isRun (by decide) inside
      simpa [scalarPhrase, Phrase.tokens, Arguments.tokens, Scalar.spelling] using whole
  | binary =>
      have inside : Spelled (.path "u8".toList :: .mark '>' :: later)
          ("u8".toList ++ '>' :: rest) :=
        .path (by decide) (by decide) (punctuation_single (by decide) rest) close
      have whole := spelled_applied (by decide : PathRun "Vec".toList) (by decide) inside
      simpa [scalarPhrase, Phrase.tokens, Arguments.tokens, Scalar.spelling] using whole
  | _ => exact .path (by decide) (by decide) ends spelled

theorem spelled_chars {isModel : String → Bool} {type : TypeExpr}
    (readable : ∀ name ∈ type.references, Readable isModel name) {later : List Token}
    {rest : List Char} (spelled : Spelled later rest) (ends : startsPath rest = false) :
    Spelled ((phraseOf type).tokens ++ later) (type.chars ++ rest) := by
  -- What stands behind a type is arbitrary, so that a type inside another is an instance.
  induction type generalizing later rest with
  | scalar s =>
      rw [phraseOf, chars_scalar]
      exact spelled_scalar s spelled ends
  | reference name =>
      have isName := readable name (by simp [references])
      have nonempty : name.toList ≠ [] := by simpa using isName.nonempty
      rw [phraseOf, Phrase.tokens, chars_reference]
      exact .path nonempty isName.isRun ends spelled
  | array element ih =>
      have close : Spelled (.mark '>' :: later) ('>' :: rest) := spelled.marked (by decide)
      have inside := ih readable close (punctuation_single (by decide) rest)
      have whole := spelled_applied (by decide : PathRun "Vec".toList) (by decide) inside
      simpa [phraseOf, Phrase.tokens, Arguments.tokens, chars_array] using whole
  | map key value ihKey ihValue =>
      have readableKey : ∀ name ∈ key.references, Readable isModel name :=
        fun name member => readable name (List.mem_append_left _ member)
      have readableValue : ∀ name ∈ value.references, Readable isModel name :=
        fun name member => readable name (List.mem_append_right _ member)
      have close : Spelled (.mark '>' :: later) ('>' :: rest) := spelled.marked (by decide)
      have second := ihValue readableValue close (punctuation_single (by decide) rest)
      have spaced := second.blank (by decide : isBlank ' ' = true)
      have comma := spaced.marked (by decide : ',' ∈ punctuation)
      have inside := ihKey readableKey comma (punctuation_single (by decide) _)
      have whole := spelled_applied (by decide : PathRun "HashMap".toList) (by decide) inside
      simpa [phraseOf, Phrase.tokens, Arguments.tokens, chars_map] using whole

/-! ### Values -/

theorem meaning_bare (isModel : String → Bool) {run : List Char}
    (notArray : String.ofList (Scalar.lastSegment run) ∉ arrayContainers)
    (notMap : String.ofList (Scalar.lastSegment run) ∉ mapContainers) :
    meaning isModel run [] [] =
      some (if isModel (String.ofList run) then reference (String.ofList run)
        else ((Scalar.ofName? run).map scalar).getD (reference (String.ofList run))) := by
  unfold meaning
  by_cases model : isModel (String.ofList run) = true
  · simp [namesByte, notArray, notMap, model]
  · cases Scalar.ofName? run <;> simp [namesByte, notArray, notMap, model]

theorem values_bare (isModel : String → Bool) {run : List Char}
    (notArray : String.ofList (Scalar.lastSegment run) ∉ arrayContainers)
    (notMap : String.ofList (Scalar.lastSegment run) ∉ mapContainers) :
    ∃ type, (Arguments.last (.path run)).values isModel = some [type] := by
  rw [Arguments.values, Phrase.value, meaning_bare isModel notArray notMap]
  exact ⟨_, rfl⟩

theorem meaning_array (isModel : String → Bool) {element : Phrase} {type : TypeExpr}
    (notByte : namesByte [element] = false) :
    meaning isModel "Vec".toList [element] [type] = some (array type) := by
  have isArray : String.ofList (Scalar.lastSegment "Vec".toList) ∈ arrayContainers := by decide
  unfold meaning
  simp only [notByte, isArray]
  simp

theorem meaning_map (isModel : String → Bool) (arguments : List Phrase) (key value : TypeExpr) :
    meaning isModel "HashMap".toList arguments [key, value] = some (map key value) := by
  have notArray : String.ofList (Scalar.lastSegment "HashMap".toList) ∉ arrayContainers := by decide
  have isMap : String.ofList (Scalar.lastSegment "HashMap".toList) ∈ mapContainers := by decide
  have notBytes : String.ofList (Scalar.lastSegment "HashMap".toList) ≠ "Vec" := by decide
  unfold meaning
  simp only [notBytes, notArray, isMap]
  simp

theorem meaning_bytes (isModel : String → Bool) (types : List TypeExpr) :
    meaning isModel "Vec".toList [.path "u8".toList] types = some (scalar .binary) := by
  have isVec : String.ofList (Scalar.lastSegment "Vec".toList) = "Vec" := by decide
  have byte : namesByte [.path "u8".toList] = true := rfl
  unfold meaning
  simp only [isVec, byte]
  simp

theorem meaning_dateTime (isModel : String → Bool) (arguments : List Phrase) (type : TypeExpr) :
    meaning isModel "chrono::DateTime".toList arguments [type] = some (scalar .dateTime) := by
  have word : String.ofList (Scalar.lastSegment "chrono::DateTime".toList) = "DateTime" := by decide
  have named : Scalar.ofName? "chrono::DateTime".toList = some .dateTime := by decide +kernel
  unfold meaning
  simp only [word, named]
  simp [arrayContainers, mapContainers]

theorem spelling_resolves : ∀ s ∈ Scalar.all, PathRun s.spelling.toList →
    String.ofList (Scalar.lastSegment s.spelling.toList) ∉ arrayContainers ∧
      String.ofList (Scalar.lastSegment s.spelling.toList) ∉ mapContainers ∧
      Scalar.ofName? s.spelling.toList = some s := by
  decide +kernel

theorem value_spelling {isModel : String → Bool} {s : Scalar}
    (isRun : PathRun s.spelling.toList) (rejected : isModel s.spelling = false) :
    (Phrase.path s.spelling.toList).value isModel = some (scalar s) := by
  have known : s ∈ Scalar.all := by cases s <;> decide
  obtain ⟨notArray, notMap, named⟩ := spelling_resolves s known isRun
  rw [Phrase.value, meaning_bare isModel notArray notMap, String.ofList_toList, rejected, named]
  rfl

theorem value_scalar {isModel : String → Bool}
    (rejects : ∀ s : Scalar, PathRun s.spelling.toList → isModel s.spelling = false) (s : Scalar) :
    (scalarPhrase s).value isModel = some (scalar s) := by
  cases s with
  | unit => rfl
  | dateTime =>
      have argument : ∃ type, (Arguments.last (.path "chrono::Utc".toList)).values isModel =
          some [type] := values_bare isModel (by decide) (by decide)
      obtain ⟨type, values⟩ := argument
      rw [scalarPhrase, Phrase.value, values, Option.bind_some]
      exact meaning_dateTime isModel _ type
  | binary =>
      have argument : ∃ type, (Arguments.last (.path "u8".toList)).values isModel =
          some [type] := values_bare isModel (by decide) (by decide)
      obtain ⟨type, values⟩ := argument
      rw [scalarPhrase, Phrase.value, values, Option.bind_some]
      exact meaning_bytes isModel [type]
  | _ => exact value_spelling (by decide) (rejects _ (by decide))

theorem namesByte_phraseOf {type : TypeExpr} (other : "u8" ∉ type.references) :
    namesByte [phraseOf type] = false := by
  cases type with
  | scalar s => cases s <;> rfl
  | reference name =>
      have different : name ≠ "u8" := by
        rintro rfl
        simp [references] at other
      simpa [phraseOf, namesByte, ← String.toList_inj] using different
  | array element => rfl
  | map key value => rfl

theorem value_phraseOf {isModel : String → Bool}
    (rejects : ∀ s : Scalar, PathRun s.spelling.toList → isModel s.spelling = false)
    {type : TypeExpr} (readable : ∀ name ∈ type.references, Readable isModel name) :
    (phraseOf type).value isModel = some type := by
  induction type with
  | scalar s => exact value_scalar rejects s
  | reference name =>
      have isName := readable name (by simp [references])
      rw [phraseOf, Phrase.value, meaning_bare, String.ofList_toList]
      · rcases isName.resolved with isModel | noScalar
        · simp [isModel]
        · simp [noScalar]
      · rw [isName.lastSegment]
        exact isName.notArray
      · rw [isName.lastSegment]
        exact isName.notMap
  | array element ih =>
      have value := ih readable
      have notByte : namesByte [phraseOf element] = false :=
        namesByte_phraseOf fun member => (readable _ member).notByte rfl
      simp [phraseOf, Phrase.value, Arguments.values, Arguments.phrases, value,
        meaning_array isModel notByte, -String.reduceToList]
  | map key value ihKey ihValue =>
      have valueKey := ihKey fun name member => readable name (List.mem_append_left _ member)
      have valueValue := ihValue fun name member => readable name (List.mem_append_right _ member)
      simp [phraseOf, Phrase.value, Arguments.values, valueKey, valueValue, meaning_map,
        -String.reduceToList]

/-- A rendered type is read as itself. Where nothing counts as a model, its names only have to keep
apart from the words for containers and scalars. -/
theorem parse_render {isModel : String → Bool} {type : TypeExpr}
    (readable : ∀ name, (reference name).Within type → Readable isModel name)
    (rejects : ∀ s : Scalar, PathRun s.spelling.toList → isModel s.spelling = false) :
    parse isModel type.render = .ok type := by
  have listed : ∀ name ∈ type.references, Readable isModel name :=
    fun name member => readable name ((type.mem_references_iff name).mp member)
  rw [parse_eq_ok_iff]
  have spelled := spelled_chars listed .nil rfl
  rw [List.append_nil, List.append_nil] at spelled
  refine ⟨phraseOf type, ?_, value_phraseOf rejects listed⟩
  rwa [render, String.toList_ofList]

def stock : TypeExpr :=
  array (map (reference "Duration")
    (map (scalar .dateTime) (map (reference "item-2") (scalar .binary))))

theorem stock_parse_render :
    stock.render =
      "Vec<HashMap<Duration, HashMap<chrono::DateTime<chrono::Utc>, HashMap<item-2, Vec<u8>>>>>" ∧
    parse (· == "Duration") stock.render = .ok stock := by
  have listed : ∀ name ∈ stock.references, Readable (· == "Duration") name := by decide +kernel
  refine ⟨by decide +kernel, parse_render (fun name inside => ?_) fun s _ => ?_⟩
  · exact listed name ((stock.mem_references_iff name).mpr inside)
  · cases s <;> decide

end ApiContracts.TypeExpr
