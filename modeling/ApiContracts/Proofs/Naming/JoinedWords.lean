import ApiContracts.Proofs.Naming.VariantName
import ApiContracts.Proofs.Plan.Outcome
import ApiContracts.Proofs.Text.Boundaries

/-!
Operation ids that are joined from the same words. Whatever joins the words, characters that are no
letters or digits or the capitals of the words themselves, the same words are found in the id again.
So requests of one kind get one name from all of these ids, and cannot stand in one plan.
-/

namespace ApiContracts

open Text

namespace Naming

def initial : List Char → List Char
  | [] => []
  | c :: rest => c.toUpper :: rest

/-- Two small letters or more. A capital alone would run together with that of the next word. -/
structure LongWord (word : List Char) : Prop where
  long : 2 ≤ word.length
  small : ∀ c ∈ word, IsSmall c

instance (word : List Char) : Decidable (LongWord word) :=
  decidable_of_iff (2 ≤ word.length ∧ word.all (decide <| IsSmall ·) = true)
    ⟨fun ⟨long, small⟩ => ⟨long, by simpa using small⟩,
      fun word => ⟨word.long, by simpa using word.small⟩⟩

def IsGap (gap : List Char) : Prop := ∀ c ∈ gap, isAsciiAlphanumeric c = false

instance (gap : List Char) : Decidable (IsGap gap) :=
  decidable_of_iff (gap.all (!isAsciiAlphanumeric ·) = true) (by simp [IsGap])

/-- The text goes on with the words behind a word that is joined to them: a gap comes before each,
or else its first letter is a capital. -/
inductive JoinsOn : List (List Char) → List Char → Prop
  | done {gap} : IsGap gap → JoinsOn [] gap
  | apart {gap form word words rest} : gap ≠ [] → IsGap gap → form ∈ [word, initial word] →
      JoinsOn words rest → JoinsOn (word :: words) (gap ++ form ++ rest)
  | together {word words rest} : JoinsOn words rest →
      JoinsOn (word :: words) (initial word ++ rest)

inductive Joins : List (List Char) → List Char → Prop
  | start {gap form word words rest} : IsGap gap → form ∈ [word, initial word] →
      JoinsOn words rest → Joins (word :: words) (gap ++ form ++ rest)

/-! ### Words found again -/

theorem clean_append (first second : List Char) :
    clean (first ++ second) = clean first ++ clean second :=
  List.map_append

theorem clean_gap {gap : List Char} (isGap : IsGap gap) :
    clean gap = List.replicate gap.length '_' := by
  have image : ∀ c ∈ gap, (if isAsciiAlphanumeric c then c else '_') = '_' :=
    fun c member => if_neg (by simp [isGap c member])
  rw [clean, List.map_congr_left image, List.map_const']

theorem toUpper_capital {c : Char} (small : IsSmall c) : IsCapital c.toUpper :=
  of_asciiCodes (fun c => IsSmall c → IsCapital c.toUpper) (by decide) small.ascii small

namespace LongWord

variable {word : List Char} (long : LongWord word)
include long

theorem split : ∃ c rest, word = c :: rest ∧ rest ≠ [] ∧ IsSmall c ∧ ∀ d ∈ rest, IsSmall d := by
  match word, long with
  | c :: d :: rest, ⟨_, small⟩ =>
      obtain ⟨here, later⟩ := List.forall_mem_cons.mp small
      exact ⟨c, d :: rest, rfl, by simp, here, later⟩

theorem form_letters {form : List Char} (isForm : form ∈ [word, initial word]) :
    ∀ c ∈ form, isAsciiAlphanumeric c = true := by
  obtain ⟨c, rest, rfl, _, here, later⟩ := long.split
  have capital := (toUpper_capital here).isAsciiLetter
  have letters : ∀ d ∈ rest, isAsciiAlphanumeric d = true :=
    fun d member => alphanumeric_of_letter (later d member).isAsciiLetter
  rcases List.mem_pair.mp isForm with rfl | rfl
  · exact List.forall_mem_cons.mpr ⟨alphanumeric_of_letter here.isAsciiLetter, letters⟩
  · exact List.forall_mem_cons.mpr ⟨alphanumeric_of_letter capital, letters⟩

theorem filledRow_form {form rest : List Char} (isForm : form ∈ [word, initial word])
    (closes : Closes rest) : filledRow (form ++ rest) = form :: filledRow rest := by
  obtain ⟨c, letters, rfl, nonempty, here, later⟩ := long.split
  have found : ∃ others, splitWords ((form ++ rest).map ([·])) = form :: others ∧
      others.filter (!·.isEmpty) = filledRow rest := by
    rcases List.mem_pair.mp isForm with rfl | rfl
    · exact splitWords_small (by simp) (List.forall_mem_cons.mpr ⟨here, later⟩) closes
    · exact splitWords_capital (toUpper_capital here) nonempty later closes
  obtain ⟨others, split, filled⟩ := found
  have nonempty : form ≠ [] := by
    rcases List.mem_pair.mp isForm with rfl | rfl
    · simp
    · simp [initial]
  rw [filledRow, split, List.filter_cons_of_pos (by simpa using nonempty), filled]

theorem closes_initial (rest : List Char) : Closes (initial word ++ rest) := by
  obtain ⟨c, letters, rfl, _, here, _⟩ := long.split
  simp [Closes, initial, toUpper_capital here]

theorem lower_form {form : List Char} (isForm : form ∈ [word, initial word]) :
    lower form = word := by
  have letters := long.form_letters isForm
  obtain ⟨c, rest, rfl, _, here, later⟩ := long.split
  have head := HeadCase.of_alphanumeric (alphanumeric_of_letter here.isAsciiLetter)
  have small : c.toLower = c := (LetterCase.of_ascii here.ascii).small here
  rw [lower_letters_eq letters]
  rcases List.mem_pair.mp isForm with rfl | rfl
  · rw [List.map_cons, small, map_toLower_small later]
  · rw [initial, List.map_cons, map_toLower_small later, head.upperLower, small]

theorem capitalize_eq : capitalize word = initial word := by
  have letters := long.form_letters (List.mem_pair.mpr (.inl rfl))
  obtain ⟨c, rest, rfl, _, here, later⟩ := long.split
  rw [capitalize_ascii fun d member => alphanumeric_ascii (letters d member),
    map_toLower_small later, initial]

end LongWord

theorem JoinsOn.found {words : List (List Char)} {text : List Char} (joins : JoinsOn words text)
    (long : ∀ word ∈ words, LongWord word) :
    Closes (clean text) ∧ (filledRow (clean text)).map lower = words := by
  -- Each step closes the word before it, which is what the next step out asks for.
  induction joins with
  | @done gap isGap =>
      rw [clean_gap isGap]
      have noWords := filledRow_underscores gap.length []
      rw [List.append_nil] at noWords
      refine ⟨?_, by rw [noWords]; rfl⟩
      cases gap with
      | nil => simp [Closes]
      | cons c rest => simp [Closes, List.replicate_succ]
  | @apart gap form word words rest nonempty isGap isForm _ ih =>
      obtain ⟨here, later⟩ := List.forall_mem_cons.mp long
      obtain ⟨closes, found⟩ := ih later
      rw [List.append_assoc, clean_append, clean_append, clean_gap isGap,
        clean_letters (here.form_letters isForm)]
      refine ⟨closes_underscores (by simpa using nonempty) _, ?_⟩
      rw [filledRow_underscores, here.filledRow_form isForm closes, List.map_cons,
        here.lower_form isForm, found]
  | @together word words rest _ ih =>
      obtain ⟨here, later⟩ := List.forall_mem_cons.mp long
      obtain ⟨closes, found⟩ := ih later
      have isForm : initial word ∈ [word, initial word] := by simp
      rw [clean_append, clean_letters (here.form_letters isForm)]
      refine ⟨here.closes_initial _, ?_⟩
      rw [here.filledRow_form isForm closes, List.map_cons, here.lower_form isForm, found]

theorem filter_words {text : List Char} (continues : ∀ c ∈ text, continuesIdentifier c = true) :
    (words text).filter (!·.isEmpty) = filledRow text := by
  by_cases empty : text = []
  · subst empty
    rfl
  · rw [words_continues continues empty, filledRow]

theorem Joins.filledWords_eq {words : List (List Char)} {text : String}
    (joins : Joins words text.toList) (long : ∀ word ∈ words, LongWord word) :
    filledWords text = words := by
  rw [Naming.filledWords_eq, filter_words (clean_continues _)]
  generalize text.toList = chars at joins
  obtain ⟨isGap, isForm, on⟩ := joins
  obtain ⟨here, later⟩ := List.forall_mem_cons.mp long
  obtain ⟨closes, found⟩ := on.found later
  rw [List.append_assoc, clean_append, clean_append, clean_gap isGap,
    clean_letters (here.form_letters isForm), filledRow_underscores,
    here.filledRow_form isForm closes, List.map_cons, here.lower_form isForm, found]

/-! ### Names of joined words -/

theorem pascalCase_eq (text : String) :
    pascalCase text = String.ofList ((filledWords text).map capitalize).flatten := by
  rw [pascalCase, pascal, ← flatten_capitalize_filled, filledWords_eq, List.map_map]
  congr 2
  apply List.map_congr_left
  intro word member
  have isWord := (List.mem_filter.mp member).1
  exact (capitalize_lower (words_letters (clean_continues _) word isWord)).symm

theorem fileStem_eq {name : String} (letters : ∀ c ∈ name.toList, isAsciiAlphanumeric c = true) :
    fileStem name = String.ofList (List.intercalate ['_'] (filledWords name)) := by
  have continues : ∀ c ∈ name.toList, continuesIdentifier c = true :=
    fun c member => by simp [continuesIdentifier, letters c member]
  have filled : (words name.toList).filter (!·.isEmpty) = words name.toList := by
    by_cases empty : name.toList = []
    · rw [empty]
      rfl
    · rw [words_continues continues empty, List.filter_eq_self]
      have notEmpty : [] ∉ splitWords (name.toList.map ([·])) := by
        refine splitWords_filled (by simpa using empty) ?_
        simp only [List.forall_mem_map]
        intro c member
        exact ⟨by simp, by simp [(IdentifierChar.of_continues (continues c member)).separates,
          letters c member]⟩
      intro word isWord
      have : word ≠ [] := fun empty => notEmpty (empty ▸ isWord)
      simpa using this
  rw [fileStem, snake, filledWords_eq, clean_letters letters, filled]

theorem joinsOn_initials (words : List (List Char)) :
    JoinsOn words (words.map initial).flatten := by
  induction words with
  | nil => exact .done (by simp [IsGap])
  | cons word words ih => exact .together ih

theorem joins_initials {words : List (List Char)} (nonempty : words ≠ []) :
    Joins words (words.map initial).flatten := by
  obtain ⟨word, words, rfl⟩ := List.exists_cons_of_ne_nil nonempty
  have isGap : IsGap [] := by simp [IsGap]
  have isForm : initial word ∈ [word, initial word] := by simp
  exact .start isGap isForm (joinsOn_initials words)

theorem pascalCase_joined {words : List (List Char)} {text : String}
    (joins : Joins words text.toList) (long : ∀ word ∈ words, LongWord word) :
    pascalCase text = String.ofList (words.map initial).flatten := by
  rw [pascalCase_eq, joins.filledWords_eq long]
  congr 2
  exact List.map_congr_left fun word member => (long word member).capitalize_eq

def stemOf (words : List (List Char)) : String := String.ofList (List.intercalate ['_'] words)

theorem fileStem_initials {words : List (List Char)} (nonempty : words ≠ [])
    (long : ∀ word ∈ words, LongWord word) :
    fileStem (String.ofList (words.map initial).flatten) = stemOf words := by
  have letters : ∀ c ∈ (String.ofList (words.map initial).flatten).toList,
      isAsciiAlphanumeric c = true := by
    intro c member
    rw [String.toList_ofList, List.mem_flatten] at member
    obtain ⟨form, isForm, inForm⟩ := member
    obtain ⟨word, isWord, rfl⟩ := List.mem_map.mp isForm
    exact (long word isWord).form_letters (by simp) c inForm
  have joins := joins_initials nonempty
  rw [← String.toList_ofList (l := (words.map initial).flatten)] at joins
  rw [fileStem_eq letters, joins.filledWords_eq long, stemOf]

theorem Joins.ne_nil {words : List (List Char)} {text : List Char} (joins : Joins words text) :
    words ≠ [] := by
  cases joins
  simp

theorem fileStem_joined {words more : List (List Char)} {text ending : String}
    (joins : Joins words text.toList) (long : ∀ word ∈ words, LongWord word)
    (longMore : ∀ word ∈ more, LongWord word)
    (ends : ending.toList = (more.map initial).flatten) :
    fileStem (pascalCase text ++ ending) = stemOf (words ++ more) := by
  have together : pascalCase text ++ ending =
      String.ofList ((words ++ more).map initial).flatten := by
    rw [pascalCase_joined joins long]
    apply String.toList_inj.mp
    simp [ends]
  rw [together]
  exact fileStem_initials (by simp [joins.ne_nil]) (List.forall_mem_append.mpr ⟨long, longMore⟩)

structure NamedBy (words : List (List Char)) (text : String) : Prop where
  pascal : pascalCase text = String.ofList (words.map initial).flatten
  command : fileStem (commandName text) = stemOf (words ++ ["command".toList])
  query : fileStem (queryName text) = stemOf (words ++ ["query".toList])
  commandHandler : fileStem (handlerName (commandName text)) =
    stemOf (words ++ ["command".toList, "handler".toList])
  queryHandler : fileStem (handlerName (queryName text)) =
    stemOf (words ++ ["query".toList, "handler".toList])

theorem Joins.namedBy {words : List (List Char)} {text : String}
    (joins : Joins words text.toList) (long : ∀ word ∈ words, LongWord word) :
    NamedBy words text where
  pascal := pascalCase_joined joins long
  command := fileStem_joined joins long (by decide) rfl
  query := fileStem_joined joins long (by decide) rfl
  commandHandler := by
    rw [handlerName, commandName, String.append_assoc]
    exact fileStem_joined joins long (by decide) rfl
  queryHandler := by
    rw [handlerName, queryName, String.append_assoc]
    exact fileStem_joined joins long (by decide) rfl

theorem requestName_joined {words : List (List Char)} {first second : String}
    (firstJoins : Joins words first.toList) (secondJoins : Joins words second.toList)
    (long : ∀ word ∈ words, LongWord word) (kind : RequestKind) :
    requestName kind first = requestName kind second := by
  have same : pascalCase first = pascalCase second :=
    (pascalCase_joined firstJoins long).trans (pascalCase_joined secondJoins long).symm
  cases kind with
  | command => exact congrArg (· ++ "Command") same
  | query => exact congrArg (· ++ "Query") same

end Naming

/-- However words are joined to an operation id, its requests are called by the words and so are
their files. Two operations whose ids are joined from the same words have no plan if their requests
are of one kind. -/
theorem joined_words_one_name {words : List (List Char)}
    (long : ∀ word ∈ words, Naming.LongWord word) :
    (∀ text : String, Naming.Joins words text.toList → Naming.NamedBy words text) ∧
    ∀ (document : Document) (options : PlanOptions) (front back : List Operation)
      (earlier later : Operation), document.operations = front ++ later :: back →
      earlier ∈ front → Naming.Joins words earlier.operationId.toList →
      Naming.Joins words later.operationId.toList →
      (Request.ofOperation earlier).kind = (Request.ofOperation later).kind →
      ∃ name first second, document.plan options = .error (.namingCollision name first second) ∧
        ((front.map fun operation => (Request.ofOperation operation).name).Nodup →
          name = (Request.ofOperation later).name ∧
            first = earlier.operationId ∧ second = later.operationId) := by
  refine ⟨fun text joins => joins.namedBy long, ?_⟩
  intro document options front back earlier later operations isEarlier firstJoins secondJoins kinds
  have same := calc (Request.ofOperation earlier).name
    _ = requestName (Request.ofOperation later).kind earlier.operationId := by rw [← kinds]; rfl
    _ = (Request.ofOperation later).name :=
      Naming.requestName_joined firstJoins secondJoins long _
  exact Document.plan_error_of_same_name operations isEarlier same options

namespace Naming

def statusWords : List (List Char) := ["find", "pets", "by", "status"].map String.toList

def capitalId : String := "findPetsByStatus"

def gapId : String := "_find.Pets--by status!"

theorem capitalId_joins : Joins statusWords capitalId.toList :=
  @Joins.start [] "find".toList _ _ _ (by decide) (by decide)
    (.together (.together (.together (@JoinsOn.done [] (by decide)))))

theorem gapId_joins : Joins statusWords gapId.toList :=
  have status := @JoinsOn.apart [' '] "status".toList _ _ _ (by decide) (by decide) (by decide)
    (@JoinsOn.done ['!'] (by decide))
  have rest := @JoinsOn.apart ['-', '-'] "by".toList _ _ _ (by decide) (by decide) (by decide) status
  @Joins.start ['_'] "find".toList _ _ _ (by decide) (by decide)
    (@JoinsOn.apart ['.'] "Pets".toList _ _ _ (by decide) (by decide) (by decide) rest)

end Naming

def findPets (operationId : String) : Operation :=
  ⟨operationId, ⟨"GET"⟩, "/pets", none, [], [], none, .void⟩

def park : Document :=
  ⟨"Park", "1", [findPets Naming.capitalId, findPets Naming.gapId], []⟩

theorem park_one_name :
    (∀ word ∈ Naming.statusWords, Naming.LongWord word) ∧
    Naming.Joins Naming.statusWords Naming.gapId.toList ∧
    Naming.NamedBy Naming.statusWords Naming.gapId ∧
    park.plan ⟨false, false⟩ =
      .error (.namingCollision "FindPetsByStatusQuery" Naming.capitalId Naming.gapId) := by
  have long : ∀ word ∈ Naming.statusWords, Naming.LongWord word := by decide
  obtain ⟨named, clash⟩ := joined_words_one_name long
  obtain ⟨name, first, second, failed, alone⟩ := clash park ⟨false, false⟩
    [findPets Naming.capitalId] [] (findPets Naming.capitalId) (findPets Naming.gapId) rfl
    List.mem_cons_self Naming.capitalId_joins Naming.gapId_joins rfl
  obtain ⟨rfl, rfl, rfl⟩ := alone (by simp)
  have called : (Request.ofOperation (findPets Naming.gapId)).name = "FindPetsByStatusQuery" := by
    decide +kernel
  rw [called] at failed
  exact ⟨long, Naming.gapId_joins, named _ Naming.gapId_joins, failed⟩

end ApiContracts
