import ApiContracts.Proofs.Types.Reading

/-!
Whole texts: those that have a type are the texts of the grammar. The rest is refused where a
character begins or the text ends, and blanks between tokens make no difference.
-/

namespace ApiContracts.TypeExpr

open Text

theorem parse_eq_ok_iff {isModel : String → Bool} {text : String} {type : TypeExpr} :
    parse isModel text = .ok type ↔
      ∃ phrase : Phrase, Spelled phrase.tokens text.toList ∧ phrase.value isModel = some type := by
  constructor
  · intro parsed
    have reads := (parse_reads isModel (2 * text.toList.length + 2)).1 ⟨text.toList, 0⟩
    rw [parse] at parsed
    split at parsed
    next => simp at parsed
    next read behind result =>
        rw [result] at reads
        obtain ⟨phrase, value, passes⟩ := reads
        split at parsed
        next finished =>
            obtain rfl := Except.ok.inj parsed
            have nothing : Spelled [] behind.rest :=
              spelled_nil_iff.mpr (List.isEmpty_iff.mp finished)
            have spelled := passes.spelled nothing
            rw [List.append_nil] at spelled
            exact ⟨phrase, spelled, value⟩
        next => simp [Cursor.fault] at parsed
  · rintro ⟨phrase, spelled, value⟩
    have short := spelled.length_le
    have enough : phrase.tokens.length ≤ 2 * text.toList.length + 2 := by omega
    rw [← List.append_nil phrase.tokens] at spelled
    have whole : Spelled (phrase.tokens ++ []) (⟨text.toList, 0⟩ : Cursor).rest := spelled
    obtain ⟨after, reads, nothing⟩ := phrase.read isModel enough value whole (by simp)
    have finished : after.skipBlanks.rest = [] := spelled_nil_iff.mp nothing
    rw [parse, reads]
    simp [finished]

theorem parse_congr {isModel : String → Bool} {text other : String} {tokens : List Token}
    (spelled : Spelled tokens text.toList) (again : Spelled tokens other.toList) :
    (parse isModel text).toOption = (parse isModel other).toOption := by
  ext type
  rw [toOption_eq_some_iff, toOption_eq_some_iff, parse_eq_ok_iff, parse_eq_ok_iff]
  constructor
  · rintro ⟨phrase, spells, value⟩
    obtain rfl := spells.unique spelled
    exact ⟨phrase, again, value⟩
  · rintro ⟨phrase, spells, value⟩
    obtain rfl := spells.unique again
    exact ⟨phrase, spelled, value⟩

def Cursor.On (text : List Char) (cursor : Cursor) : Prop :=
  ∃ front, text = front ++ cursor.rest ∧ cursor.offset = byteLength front

def StopsOn {α : Type} (text : List Char) : Except TypeFault (α × Cursor) → Prop
  | .ok (_, after) => after.On text
  | .error fault => ∃ stop : Cursor, stop.On text ∧ stop.offset = fault.offset

theorem Cursor.On.advances {text : List Char} {cursor stop : Cursor} (on : cursor.On text)
    (advances : cursor.Advances stop) : stop.On text := by
  obtain ⟨front, split, offset⟩ := on
  obtain ⟨between, rest, later⟩ := advances
  refine ⟨front ++ between, ?_, ?_⟩
  · rw [List.append_assoc, ← rest, split]
  · rw [byteLength_append, later, offset]

theorem parseType_stopsOn (isModel : String → Bool) (fuel : Nat) {text : List Char}
    {cursor : Cursor} (on : cursor.On text) : StopsOn text (parseType isModel fuel cursor) := by
  have reads := (parse_reads isModel fuel).1 cursor
  cases result : parseType isModel fuel cursor with
  | error fault =>
      rw [result] at reads
      obtain ⟨stop, advances, same⟩ := reads
      exact ⟨stop, on.advances advances, same⟩
  | ok found =>
      rw [result] at reads
      obtain ⟨_, _, passes⟩ := reads
      exact on.advances passes.advances

theorem parse_fault {isModel : String → Bool} {text : String} {fault : TypeFault}
    (failed : parse isModel text = .error fault) :
    ∃ stop : Cursor, stop.On text.toList ∧ stop.offset = fault.offset := by
  have start : (⟨text.toList, 0⟩ : Cursor).On text.toList := ⟨[], rfl, rfl⟩
  have stops := parseType_stopsOn isModel (2 * text.toList.length + 2) start
  rw [parse] at failed
  split at failed
  next found result =>
      rw [result] at stops
      obtain rfl := Except.error.inj failed
      exact stops
  next type behind result =>
      rw [result] at stops
      split at failed
      next => simp at failed
      next =>
          obtain rfl := Except.error.inj failed
          exact ⟨behind.skipBlanks, stops.advances (Cursor.passes_skipBlanks behind).advances, rfl⟩

/-- The texts of the grammar, and no others, have a type: the value of their phrase. Any other
text is refused. On the way the reader stops between characters only, blanks between tokens make no
difference, and more fuel than it starts with would change nothing. -/
theorem parse_exact (isModel : String → Bool) (text : String) :
    (∀ type, parse isModel text = .ok type ↔
      ∃ phrase : Phrase, Spelled phrase.tokens text.toList ∧ phrase.value isModel = some type) ∧
    (∀ fault, parse isModel text = .error fault →
      ∃ stop : Cursor, stop.On text.toList ∧ stop.offset = fault.offset) ∧
    (∀ (fuel : Nat) (cursor : Cursor), cursor.On text.toList →
      StopsOn text.toList (parseType isModel fuel cursor)) ∧
    (∀ (before after : List Token) (front back blanks : List Char),
      Spelled before front → Spelled after back → Spelled (before ++ after) (front ++ back) →
      text.toList = front ++ back → (∀ c ∈ blanks, isBlank c = true) →
      (parse isModel (String.ofList (front ++ (blanks ++ back)))).toOption =
        (parse isModel text).toOption) ∧
    ∀ more, parseType isModel (2 * text.toList.length + 2 + more) ⟨text.toList, 0⟩ =
      parseType isModel (2 * text.toList.length + 2) ⟨text.toList, 0⟩ := by
  refine ⟨fun _ => parse_eq_ok_iff, fun _ => parse_fault,
    fun fuel _ => parseType_stopsOn isModel fuel, ?_, ?_⟩
  · intro before after front back blanks spelledFront spelledBack spelled split blank
    by_cases nothing : blanks = []
    · have same : text = String.ofList (front ++ back) := by rw [← split, String.ofList_toList]
      rw [nothing, same, List.nil_append]
    · have spaced := spelledFront.spaced spelledBack nothing blank
      rw [← split] at spelled
      refine parse_congr ?_ spelled
      rwa [String.toList_ofList]
  · intro more
    exact (parse_fuel isModel _ more).1 _ (by simp)

example : (parse (· == "Date") " Map::List < Date\t>").toOption =
    some (array (reference "Date")) := by decide +kernel

end ApiContracts.TypeExpr
