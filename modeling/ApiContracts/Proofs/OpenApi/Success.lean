import ApiContracts.Proofs.Json.Members
import ApiContracts.Proofs.OpenApi.ByReference

/-!
The response that an operation answers. Of those that tell of success in place and have a schema, in
the order of their statuses, the first of code 200 counts, or else the first of the lowest code.
Responses without a success or without a media type for JSON change nothing.
-/

namespace ApiContracts.OpenApi

/-! ### The first result after sorting -/

section Sorting

variable {α β : Type} {le : α → α → Bool}
  (trans : ∀ a b c, le a b = true → le b c = true → le a c = true)
  (total : ∀ a b, (le a b || le b a) = true)

include trans total in
theorem filter_mergeSort {keep : α → Bool}
    (alike : ∀ a b, keep a = true → keep b = true → le a b = true) (entries : List α) :
    (entries.mergeSort le).filter keep = entries.filter keep := by
  -- They are in order before, so a stable sort keeps them as a sublist.
  have same : (entries.filter keep).Pairwise fun a b => le a b = true := by
    refine List.pairwise_of_forall_mem_list ?_
    intro earlier isEarlier later isLater
    exact alike earlier later (List.mem_filter.mp isEarlier).2 (List.mem_filter.mp isLater).2
  have kept := (List.sublist_mergeSort trans total same List.filter_sublist).filter keep
  rw [List.filter_filter] at kept
  simp only [Bool.and_self] at kept
  exact (kept.eq_of_length ((List.mergeSort_perm ..).filter _).length_eq.symm).symm

theorem findSome?_filter {f : α → Option β} {keep : α → Bool} {earlier later : List α} {chosen : α}
    {value : β} (found : f chosen = some value) (kept : keep chosen = true)
    (nothing : ∀ other ∈ earlier, keep other = true → f other = none) :
    ((earlier ++ chosen :: later).filter keep).findSome? f = some value := by
  rw [List.findSome?_eq_some_iff]
  refine ⟨earlier.filter keep, chosen, later.filter keep, by simp [kept], found, ?_⟩
  intro other isKept
  obtain ⟨isEarlier, keeps⟩ := List.mem_filter.mp isKept
  exact nothing other isEarlier keeps

include total in
theorem first_le {f : α → Option β} {earlier later : List α} {chosen other : α}
    (sorted : (earlier ++ chosen :: later).Pairwise fun a b => le a b = true)
    (nothing : ∀ other ∈ earlier, f other = none)
    (isEntry : other ∈ earlier ++ chosen :: later) (found : f other ≠ none) :
    le chosen other = true := by
  rcases List.mem_append.mp isEntry with inEarlier | _ | ⟨_, inLater⟩
  · exact absurd (nothing other inEarlier) found
  · simpa using total chosen chosen
  · exact (List.pairwise_cons.mp (List.pairwise_append.mp sorted).2.1).1 other inLater

include trans total in
/-- The first result is that of the best entry with one: those in front of it are worse, and those
behind it are no better. -/
theorem findSome?_mergeSort {f : α → Option β} {front back : List α} {best : α} {result : β}
    (here : f best = some result)
    (ahead : ∀ other ∈ front, f other ≠ none → le other best = false)
    (behind : ∀ other ∈ back, f other ≠ none → le best other = true) :
    ((front ++ best :: back).mergeSort le).findSome? f = some result := by
  have self : le best best = true := by simpa using total best best
  have least (other : α) (isEntry : other ∈ front ++ best :: back) (found : f other ≠ none) :
      le best other = true := by
    rcases List.mem_append.mp isEntry with inFront | _ | ⟨_, inBack⟩
    · simpa [ahead other inFront found] using total best other
    · exact self
    · exact behind other inBack found
  have isSorted : best ∈ (front ++ best :: back).mergeSort le := by simp
  obtain ⟨value, first⟩ : ∃ value, ((front ++ best :: back).mergeSort le).findSome? f = some value :=
    Option.isSome_iff_exists.mp (List.findSome?_isSome_iff.mpr ⟨best, isSorted, by simp [here]⟩)
  obtain ⟨earlier, chosen, later, split, found, nothing⟩ := List.findSome?_eq_some_iff.mp first
  -- The chosen entry and the best are alike, and all that are alike stand in their old order.
  have isEntry : chosen ∈ (front ++ best :: back).mergeSort le := by
    rw [split]
    simp
  have noBetter : le best chosen = true :=
    least chosen (List.mem_mergeSort.mp isEntry) (by simp [found])
  have sorted := List.pairwise_mergeSort trans total (front ++ best :: back)
  rw [split] at sorted isSorted
  have noWorse : le chosen best = true := first_le total sorted nothing isSorted (by simp [here])
  let alike (other : α) : Bool := le other best && le best other
  have stable : ((front ++ best :: back).mergeSort le).filter alike =
      (front ++ best :: back).filter alike := by
    apply filter_mergeSort trans total
    simp only [alike, Bool.and_eq_true]
    exact fun first second low high => trans _ best _ low.1 high.2
  have old : ((front ++ best :: back).filter alike).findSome? f = some result := by
    refine findSome?_filter here (by simp [alike, self]) ?_
    intro other inFront isAlike
    refine Decidable.byContradiction fun answers => ?_
    simp [alike, ahead other inFront answers] at isAlike
  rw [split] at stable
  rw [first, ← old, ← stable, findSome?_filter found (by simp [alike, noWorse, noBetter])
    fun other isEarlier _ => nothing other isEarlier]

end Sorting

/-! ### Statuses -/

structure DigitsOf (digits : List Char) (number : Nat) : Prop where
  nonempty : digits ≠ []
  isDigit : ∀ c ∈ digits, Text.isAsciiDigit c = true
  value : Nat.ofDigitChars 10 digits 0 = number

def HasCode (status : String) (code : Nat) : Prop :=
  ∃ digits, (status.toList = digits ∨ status.toList = '+' :: digits) ∧ DigitsOf digits code

theorem digitsOf_iff (digits : List Char) (code : Nat) :
    (if digits.isEmpty || !digits.all Text.isAsciiDigit then none
      else
        let code := digits.foldl (fun value c => value * 10 + (c.toNat - '0'.toNat)) 0
        if code < 65536 then some code else none) = some code ↔
      DigitsOf digits code ∧ code < 65536 := by
  have value : digits.foldl (fun value c => value * 10 + (c.toNat - '0'.toNat)) 0 =
      Nat.ofDigitChars 10 digits 0 := by
    simp only [Nat.ofDigitChars, Nat.mul_comm]
  simp only [value, Option.ite_none_left_eq_some, Option.ite_none_right_eq_some, Bool.or_eq_true,
    List.isEmpty_iff, Bool.not_eq_true', not_or, Bool.not_eq_false, List.all_eq_true,
    Option.some.injEq]
  constructor
  · rintro ⟨⟨nonempty, isDigit⟩, small, rfl⟩
    exact ⟨⟨nonempty, isDigit, rfl⟩, small⟩
  · rintro ⟨⟨nonempty, isDigit, rfl⟩, small⟩
    exact ⟨⟨nonempty, isDigit⟩, small, rfl⟩

theorem statusCode?_eq_some_iff (status : String) (code : Nat) :
    statusCode? status = some code ↔ HasCode status code ∧ code < 65536 := by
  simp only [statusCode?, digitsOf_iff, HasCode]
  constructor
  · rintro ⟨isDigits, small⟩
    refine ⟨⟨_, ?_, isDigits⟩, small⟩
    split
    next rest behind => exact .inr behind
    next => exact .inl rfl
  · rintro ⟨⟨digits, given | given, isDigits⟩, small⟩
    · refine ⟨?_, small⟩
      split
      next rest signed =>
          -- A sign is no digit.
          have digit := isDigits.isDigit '+' (by rw [← given, signed]; exact List.mem_cons_self)
          exact absurd digit (by decide)
      next => exact given ▸ isDigits
    · exact ⟨by simpa only [given] using isDigits, small⟩

/-! ### Media types -/

def NamesJson (name : String) : Prop :=
  "/json".toList <:+ name.toList ∨ "+json".toList <:+ name.toList

instance (name : String) : Decidable (NamesJson name) :=
  inferInstanceAs (Decidable (_ ∨ _))

/-- What is read of some content: what it has for `application/json`, or else for the first name
that ends like one for JSON. -/
inductive Selected (content : Content) : MediaType → Prop
  | standard {media} : content.lookup "application/json" = some media → Selected content media
  | ending {before name media after} : content.lookup "application/json" = none →
      content = before ++ (name, media) :: after → NamesJson name →
      (∀ other ∈ before, ¬NamesJson other.1) → Selected content media

theorem endsIn_json_iff (name : String) :
    (Text.endsIn "/json".toList name.toList || Text.endsIn "+json".toList name.toList) = true ↔
      NamesJson name := by
  rw [Bool.or_eq_true, Text.endsIn_iff, Text.endsIn_iff, NamesJson]

theorem jsonMedia?_eq_some_iff (content : Content) (media : MediaType) :
    jsonMedia? content = some media ↔ Selected content media := by
  rw [jsonMedia?]
  split
  next value standard =>
      rw [Option.some.injEq]
      constructor
      · rintro rfl
        exact .standard standard
      · rintro (found | ⟨absent, _⟩)
        · exact Option.some.inj (standard.symm.trans found)
        · simp [absent] at standard
  next absent =>
      simp only [Option.map_eq_some_iff, List.find?_eq_some_iff_append, endsIn_json_iff,
        Bool.not_eq_true', ← Bool.not_eq_true]
      constructor
      · rintro ⟨⟨name, _⟩, ⟨isJson, before, after, split, others⟩, rfl⟩
        exact .ending absent split isJson others
      · rintro (found | ⟨_, split, isJson, others⟩)
        · simp [absent] at found
        · exact ⟨_, ⟨isJson, _, _, split, others⟩, rfl⟩

theorem jsonSchema?_eq_some_iff (content : Content) (schema : Schema) :
    jsonSchema? content = some schema ↔
      ∃ media, Selected content media ∧ media.schema = some schema := by
  simp only [jsonSchema?, Option.bind_eq_some_iff, jsonMedia?_eq_some_iff]

theorem jsonSchema?_insertMember {name : String} (notJson : ¬NamesJson name) (media : MediaType)
    (content : Content) :
    jsonSchema? (Json.insertMember name media content) = jsonSchema? content := by
  have notStandard : "application/json" ≠ name := by
    rintro rfl
    exact notJson (by decide)
  have sameEnding (ends : String × MediaType → Bool) (never : ∀ old, ends (name, old) = false) :
      (Json.insertMember name media content).find? ends = content.find? ends := by
    rw [← List.head?_filter, ← List.head?_filter, ← List.filterMap_eq_filter,
      Json.filterMap_insertMember]
    · simp [Option.guard, never]
    · simp [Option.guard, never]
  rw [jsonSchema?, jsonSchema?, jsonMedia?, jsonMedia?, Json.lookup_insertMember,
    if_neg notStandard, sameEnding]
  intro old
  rw [← Bool.not_eq_true, endsIn_json_iff]
  exact notJson

/-! ### Responses that count -/

/-- A response in place, under a status that tells of success by this code, has this schema for its
selected media type. -/
inductive Qualifies : String × OrReference ResponseObject → Nat → Schema → Prop
  | inPlace {status code response media schema} : HasCode status code → 200 ≤ code → code < 300 →
      Selected response.content media → media.schema = some schema →
      Qualifies (status, .inline response) code schema

inductive Offers : List (String × OrReference ResponseObject) → List (Nat × Schema) → Prop
  | nil : Offers [] []
  | taken {entry code schema rest offers} : Qualifies entry code schema → Offers rest offers →
      Offers (entry :: rest) ((code, schema) :: offers)
  | passed {entry rest offers} : (∀ code schema, ¬Qualifies entry code schema) →
      Offers rest offers → Offers (entry :: rest) offers

def described? (success : Nat × ResponseObject) : Option (Nat × Schema) :=
  (jsonSchema? success.2.content).map (success.1, ·)

def offer? : String × OrReference ResponseObject → Option (Nat × Schema)
  | (_, .reference _) => none
  | (status, .inline response) =>
    (statusCode? status).bind fun code =>
      if 200 ≤ code && code < 300 then described? (code, response) else none

theorem offer?_eq_some_iff (entry : String × OrReference ResponseObject) (code : Nat)
    (schema : Schema) : offer? entry = some (code, schema) ↔ Qualifies entry code schema := by
  obtain ⟨status, path | response⟩ := entry
  · exact iff_of_false (by simp [offer?]) nofun
  · simp only [offer?, described?, Option.bind_eq_some_iff, Option.ite_none_right_eq_some,
      Option.map_eq_some_iff, jsonSchema?_eq_some_iff, Bool.and_eq_true, decide_eq_true_eq]
    constructor
    · rintro ⟨_, coded, ⟨low, high⟩, _, ⟨media, selected, described⟩, same⟩
      obtain ⟨rfl, rfl⟩ := Prod.mk.inj same
      exact .inPlace ((statusCode?_eq_some_iff _ _).mp coded).1 low high selected described
    · rintro ⟨coded, low, high, selected, described⟩
      exact ⟨code, (statusCode?_eq_some_iff _ _).mpr ⟨coded, by omega⟩, ⟨low, high⟩, schema,
        ⟨_, selected, described⟩, rfl⟩

theorem offer?_eq_none_iff (entry : String × OrReference ResponseObject) :
    offer? entry = none ↔ ∀ code schema, ¬Qualifies entry code schema := by
  simp only [← offer?_eq_some_iff, Option.eq_none_iff_forall_ne_some, Prod.forall, ne_eq]

theorem offers_iff (responses : List (String × OrReference ResponseObject))
    (offers : List (Nat × Schema)) :
    Offers responses offers ↔ responses.filterMap offer? = offers := by
  constructor
  · intro relation
    induction relation with
    | nil => rfl
    | taken qualifies _ ih =>
        rw [List.filterMap_cons_some ((offer?_eq_some_iff _ _ _).mpr qualifies), ih]
    | passed none _ ih => rw [List.filterMap_cons_none ((offer?_eq_none_iff _).mpr none), ih]
  · rintro rfl
    induction responses with
    | nil => exact .nil
    | cons entry rest ih =>
        cases offered : offer? entry with
        | none =>
            rw [List.filterMap_cons_none offered]
            exact .passed ((offer?_eq_none_iff _).mp offered) ih
        | some offer =>
            rw [List.filterMap_cons_some offered]
            exact .taken ((offer?_eq_some_iff _ _ _).mp offered) ih

theorem filterMap_successes (responses : List (String × OrReference ResponseObject)) :
    (successes responses).filterMap described? = responses.filterMap offer? := by
  rw [successes, List.filterMap_filterMap]
  refine List.filterMap_congr ?_
  intro entry _
  obtain ⟨status, response⟩ := entry
  cases response with
  | reference path =>
      dsimp only
      cases statusCode? status <;> rfl
  | inline response =>
      simp only [offer?]
      cases statusCode? status with
      | none => rfl
      | some code =>
          simp only [Option.bind_some]
          split <;> rfl

/-! ### The choice -/

def Precedes (first second : Nat) : Prop := second ≠ 200 ∧ (first = 200 ∨ first < second)

instance (first second : Nat) : Decidable (Precedes first second) :=
  inferInstanceAs (Decidable (_ ∧ _))

/-- What is answered where this is on offer: nothing, or the first of those whose code no other
precedes. -/
inductive Chosen (schemas : Schemas) : List (Nat × Schema) → ResponseShape → Prop
  | nothing : Chosen schemas [] .void
  | first {before code schema after} : (∀ other ∈ before, Precedes code other.1) →
      (∀ other ∈ after, ¬Precedes other.1 code) →
      Chosen schemas (before ++ (code, schema) :: after) (.ofType (typeOf schemas schema).type)

theorem Chosen.head {schemas : Schemas} {code : Nat} {schema : Schema} {after : List (Nat × Schema)}
    (noBetter : ∀ other ∈ after, ¬Precedes other.1 code) :
    Chosen schemas ((code, schema) :: after) (.ofType (typeOf schemas schema).type) :=
  @Chosen.first schemas [] code schema after nofun noBetter

def Answers (schemas : Schemas) (responses : List (String × OrReference ResponseObject))
    (shape : ResponseShape) : Prop :=
  ∃ offers, Offers responses offers ∧ Chosen schemas offers shape

theorem Precedes.trans {first second third : Nat} (before : Precedes first second)
    (next : Precedes second third) : Precedes first third := by
  rw [Precedes] at *
  omega

theorem not_precedes_trans {first second third : Nat} (before : ¬Precedes first second)
    (next : ¬Precedes second third) : ¬Precedes first third := by
  rw [Precedes] at *
  omega

theorem exists_chosen (schemas : Schemas) (offers : List (Nat × Schema)) :
    ∃ shape, Chosen schemas offers shape := by
  induction offers with
  | nil => exact ⟨_, .nothing⟩
  | cons offer rest ih =>
      obtain ⟨code, schema⟩ := offer
      obtain ⟨_, chosen⟩ := ih
      cases chosen with
      | nothing => exact ⟨_, .head nofun⟩
      | @first before best _ after worse noBetter =>
          -- The new offer is taken unless the best one so far precedes it.
          by_cases better : Precedes best code
          · refine ⟨_, @Chosen.first _ ((code, schema) :: before) _ _ _ ?_ noBetter⟩
            rintro other (_ | ⟨_, inBefore⟩)
            · exact better
            · exact worse other inBefore
          · refine ⟨_, .head ?_⟩
            intro other isOther
            rcases List.mem_append.mp isOther with inBefore | _ | ⟨_, inAfter⟩
            · exact fun precedes => better ((worse other inBefore).trans precedes)
            · exact better
            · exact not_precedes_trans (noBetter other inAfter) better

theorem codeBefore_iff (first second : Nat) :
    codeBefore first second = true ↔ ¬Precedes second first := by
  simp only [codeBefore, Precedes, Bool.or_eq_true, Bool.and_eq_true, beq_iff_eq, bne_iff_ne,
    decide_eq_true_eq]
  omega

theorem codeBefore_trans (first second third : Nat) (before : codeBefore first second = true)
    (next : codeBefore second third = true) : codeBefore first third = true := by
  rw [codeBefore_iff] at *
  exact not_precedes_trans next before

theorem codeBefore_total (first second : Nat) :
    (codeBefore first second || codeBefore second first) = true := by
  rw [Bool.or_eq_true, codeBefore_iff, codeBefore_iff, Precedes, Precedes]
  omega

theorem successSchema?_of_best {operation : OperationObject} {before after : List (Nat × Schema)}
    {code : Nat} {schema : Schema}
    (offered : operation.responses.filterMap offer? = before ++ (code, schema) :: after)
    (worse : ∀ other ∈ before, Precedes code other.1)
    (noBetter : ∀ other ∈ after, ¬Precedes other.1 code) :
    successSchema? operation = some schema := by
  rw [← filterMap_successes, List.filterMap_eq_append_iff] at offered
  obtain ⟨front, _, split, rfl, behind⟩ := offered
  obtain ⟨idle, ⟨_, response⟩, back, rfl, nothing, found, rfl⟩ :=
    List.filterMap_eq_cons_iff.mp behind
  obtain ⟨_, described, same⟩ := Option.map_eq_some_iff.mp found
  obtain ⟨rfl, rfl⟩ := Prod.mk.inj same
  -- A success with a schema is on offer.
  have offers {successes : List (Nat × ResponseObject)} {other : Nat × ResponseObject}
      (isSuccess : other ∈ successes) (answers : jsonSchema? other.2.content ≠ none) :
      ∃ schema, (other.1, schema) ∈ successes.filterMap described? := by
    obtain ⟨schema, described⟩ := Option.ne_none_iff_exists'.mp answers
    exact ⟨schema, List.mem_filterMap.mpr ⟨other, isSuccess, by simp [described?, described]⟩⟩
  rw [successSchema?, split, ← List.append_assoc]
  refine findSome?_mergeSort (fun a b c => codeBefore_trans a.1 b.1 c.1)
    (fun a b => codeBefore_total a.1 b.1) described ?_ ?_
  · intro other isAhead answers
    rw [← Bool.not_eq_true, codeBefore_iff, not_not]
    rcases List.mem_append.mp isAhead with inFront | isIdle
    · obtain ⟨schema, isOffer⟩ := offers inFront answers
      exact worse _ isOffer
    · exact absurd (Option.map_eq_none_iff.mp (nothing other isIdle)) answers
  · intro other inBack answers
    obtain ⟨schema, isOffer⟩ := offers inBack answers
    exact (codeBefore_iff _ _).mpr (noBetter _ isOffer)

theorem Chosen.responseShape_eq {schemas : Schemas} {operation : OperationObject}
    {offers : List (Nat × Schema)} {shape : ResponseShape} (chosen : Chosen schemas offers shape)
    (offered : Offers operation.responses offers) : responseShape schemas operation = shape := by
  rw [offers_iff] at offered
  rw [OpenApi.responseShape_eq]
  cases chosen with
  | nothing =>
      rw [← filterMap_successes, List.filterMap_eq_nil_iff] at offered
      have unanswered : successSchema? operation = none := by
        rw [successSchema?, List.findSome?_eq_none_iff]
        intro success isSuccess
        exact Option.map_eq_none_iff.mp (offered success (List.mem_mergeSort.mp isSuccess))
      rw [unanswered]
  | first worse noBetter => rw [successSchema?_of_best offered worse noBetter]

theorem responseShape_eq_iff (schemas : Schemas) (operation : OperationObject)
    (shape : ResponseShape) :
    responseShape schemas operation = shape ↔ Answers schemas operation.responses shape := by
  constructor
  · rintro rfl
    have offered := (offers_iff operation.responses _).mpr rfl
    obtain ⟨shape, chosen⟩ := exists_chosen schemas (operation.responses.filterMap offer?)
    exact ⟨_, offered, chosen.responseShape_eq offered ▸ chosen⟩
  · rintro ⟨offers, offered, chosen⟩
    exact chosen.responseShape_eq offered

theorem responseShape_congr (schemas : Schemas) {operation other : OperationObject}
    (same : operation.responses.filterMap offer? = other.responses.filterMap offer?) :
    responseShape schemas operation = responseShape schemas other := by
  rw [responseShape_eq_iff, Answers]
  simp only [offers_iff, same]
  simp only [← offers_iff]
  exact (responseShape_eq_iff schemas other _).mp rfl

/-! ### Responses that do not count -/

inductive Idle : String → OrReference ResponseObject → Prop
  | unsuccessful {status response} : (∀ code, HasCode status code → code < 200 ∨ 300 ≤ code) →
      Idle status response
  | notJson {status response} : (∀ media ∈ response.content, ¬NamesJson media.1) →
      Idle status (.inline response)

theorem Selected.isJson {content : Content} {media : MediaType} (selected : Selected content media) :
    ∃ name, (name, media) ∈ content ∧ NamesJson name := by
  cases selected with
  | standard found => exact ⟨_, mem_of_lookup found, by decide⟩
  | ending _ split isJson _ => exact ⟨_, split ▸ by simp, isJson⟩

theorem Idle.offer?_eq_none {status : String} {response : OrReference ResponseObject}
    (idle : Idle status response) : offer? (status, response) = none := by
  rw [offer?_eq_none_iff]
  rintro code schema ⟨coded, low, high, selected, _⟩
  cases idle with
  | unsuccessful outside =>
      have := outside code coded
      omega
  | notJson none =>
      obtain ⟨name, isMedia, isJson⟩ := selected.isJson
      exact none _ isMedia isJson

theorem idle_default (response : OrReference ResponseObject) : Idle "default" response := by
  refine .unsuccessful ?_
  rintro code ⟨_, rfl | signed, isDigits⟩
  · exact absurd (isDigits.isDigit 'd' (by decide)) (by decide)
  · exact absurd signed (by simp)

theorem members_ascending {α : Type} {decode : Decoder α} {given : List (String × Json)}
    {read : List (String × α)} (reads : members decode (.ofMembers given) = some read) :
    Json.Ascending read := by
  have sameKeys (values : List (String × Json)) (read : List (String × α))
      (reads : values.mapM (fun member => (decode member.2).map (member.1, ·)) = some read) :
      read.map (·.1) = values.map (·.1) := by
    induction values generalizing read with
    | nil =>
        obtain rfl : [] = read := by simpa using reads
        rfl
    | cons member rest ih =>
        simp only [List.mapM_cons, Option.bind_eq_bind, Option.bind_eq_some_iff,
          Option.map_eq_some_iff] at reads
        obtain ⟨_, ⟨value, _, rfl⟩, later, readLater, same⟩ := reads
        obtain rfl := Option.some.inj same
        rw [List.map_cons, List.map_cons, ih later readLater]
  have ascending := Json.ascending_sortMembers given
  rw [Json.Ascending, ← List.pairwise_map (f := Prod.fst)] at ascending ⊢
  exact sameKeys (Json.sortMembers given) read reads ▸ ascending

def OperationObject.withResponse (operation : OperationObject) (status : String)
    (response : OrReference ResponseObject) : OperationObject :=
  { operation with responses := Json.insertMember status response operation.responses }

/-- What an operation answers is the choice among its responses that count, and nothing else that it
describes changes it. -/
structure AnswersCanonically (schemas : Schemas) (operation : OperationObject) : Prop where
  chosen : ∀ shape,
    responseShape schemas operation = shape ↔ Answers schemas operation.responses shape
  idle : ∀ status response, Idle status response → status ∉ operation.responses.map (·.1) →
    responseShape schemas (operation.withResponse status response) =
      responseShape schemas operation
  notJson : ∀ before status response after name media,
    operation.responses = before ++ (status, .inline response) :: after → ¬NamesJson name →
      responseShape schemas { operation with responses := before ++
          (status, .inline ⟨Json.insertMember name media response.content⟩) :: after } =
        responseShape schemas operation

theorem answersCanonically (schemas : Schemas) (operation : OperationObject) :
    AnswersCanonically schemas operation := by
  refine ⟨responseShape_eq_iff schemas operation, ?_, ?_⟩
  · intro status response idle fresh
    refine responseShape_congr schemas (Json.filterMap_insertMember idle.offer?_eq_none ?_)
    intro old there
    exact absurd (List.mem_map_of_mem there) fresh
  · intro before status response after name media split notJson
    refine responseShape_congr schemas ?_
    have same : offer? (status, .inline ⟨Json.insertMember name media response.content⟩) =
        offer? (status, .inline response) := by
      simp only [offer?, described?, jsonSchema?_insertMember notJson]
    rw [split, List.filterMap_append, List.filterMap_append, List.filterMap_cons,
      List.filterMap_cons, same]

/-- The response of an operation is that to code 200, or else that to the lowest code, of those that
tell of success in place and have a schema for their media type for JSON. Of several with one code
it is the first, and what is read from an object is in the order of its keys. Other statuses,
`default` among them, and other media types change nothing. So the operations of an accepted
description answer, where no result is declared. -/
theorem response_canonical (description : Description) :
    (∀ operation, AnswersCanonically description.schemas operation) ∧
    (∀ (α : Type) (decode : Decoder α) given read,
      members decode (.ofMembers given) = some read → Json.Ascending read) ∧
    ∀ document, OpenApi.document description = .ok document →
      List.Forall₂ (fun entry operation => entry.2.2.2.returnType = none →
          Answers description.schemas entry.2.2.2.responses operation.response)
        (entries description) document.operations := by
  refine ⟨answersCanonically description.schemas, fun α decode given read => members_ascending, ?_⟩
  intro document accepted
  refine (document_describes accepted).2.imp fun entry operation describes undeclared => ?_
  rw [← responseShape_eq_iff, describes.response undeclared]

def wordArray : Schema :=
  .object { Keywords.ofWord "array" with items := some (.object (.ofWord "string")) }

def wordResponse : ResponseObject :=
  ⟨[("application/words+json", ⟨some wordArray⟩), ("text/json", ⟨none⟩)]⟩

def listWords : OperationObject :=
  { OperationObject.ofId "listWords" with
    responses := [
      ("+200", .reference "#/components/responses/Words"),
      ("0201", .inline wordResponse),
      ("200", .inline ⟨[("text/plain", ⟨some (.object (.ofWord "string"))⟩)]⟩),
      ("201", .inline ⟨jsonContent (.object (.ofWord "integer"))⟩),
      ("404", .inline ⟨jsonContent (.object (.ofWord "boolean"))⟩)] }

def glossary : Description :=
  { title := "Glossary", version := "1", schemas := [], parameters := []
    paths := [readPath "/words" listWords] }

theorem glossary_response_canonical :
    responseShape [] listWords = .array (.scalar .string) ∧
    Answers [] listWords.responses (.array (.scalar .string)) ∧
    (∀ response, responseShape [] (listWords.withResponse "default" response) =
      .array (.scalar .string)) ∧
    (∀ media, responseShape [] { listWords with responses := listWords.responses.take 1 ++
        ("0201", .inline ⟨Json.insertMember "text/html" media wordResponse.content⟩) ::
          (listWords.responses.drop 2) } = .array (.scalar .string)) ∧
    Json.Ascending [("200", "Found"), ("201", "Kept")] ∧
    ∃ document, OpenApi.document glossary = .ok document ∧
      List.Forall₂ (fun entry operation => entry.2.2.2.returnType = none →
          Answers [] entry.2.2.2.responses operation.response)
        (entries glossary) document.operations := by
  obtain ⟨canonical, ascending, accepts⟩ := response_canonical glossary
  have answers : Answers [] listWords.responses (.array (.scalar .string)) := by
    refine ⟨[(201, wordArray), (201, .object (.ofWord "integer"))], (offers_iff _ _).mpr rfl, ?_⟩
    exact .head (by simp [Precedes])
  have answer := ((canonical listWords).chosen _).mpr answers
  refine ⟨answer, answers, ?_, ?_, ?_, ?_⟩
  · intro response
    rw [← answer]
    exact (canonical listWords).idle "default" response (idle_default response) (by decide)
  · intro media
    rw [← answer]
    exact (canonical listWords).notJson _ _ wordResponse _ "text/html" media rfl (by decide)
  · exact ascending String text [("201", .string "Kept"), ("200", .string "Found")] _ (by rfl)
  · have made : (OpenApi.document glossary).isOk = true := by decide +kernel
    obtain ⟨document, accepted⟩ := exists_of_isOk made
    exact ⟨document, accepted, accepts document accepted⟩

end ApiContracts.OpenApi
