import ApiContracts.Proofs.Types.Cursor

/-!
The reader of declared types accepts its grammar and nothing else: what it returns is the value of
the phrase that it passed, and every phrase with a value is read. It only ever stops between
characters, and it never runs out of fuel.
-/

namespace ApiContracts.TypeExpr

open Text

/-! ### The meaning of a path -/

theorem arguments_spell_byte (arguments : Arguments) :
    (Token.mark '<' :: arguments.tokens).flatMap Token.chars = "<u8>".toList ↔
      namesByte arguments.phrases = true := by
  rw [show "<u8>".toList = '<' :: ("u8".toList ++ ['>']) from rfl, List.flatMap_cons, Token.chars,
    List.singleton_append, List.cons_inj_right]
  cases arguments with
  | last phrase =>
      rw [Arguments.tokens, List.flatMap_append, List.flatMap_singleton, Token.chars,
        List.append_cancel_right_eq]
      cases phrase with
      | unit => decide
      | path run => simp [Phrase.tokens, Token.chars, Arguments.phrases, namesByte]
      | applied run arguments =>
          have bracket : '<' ∈ (Phrase.applied run arguments).tokens.flatMap Token.chars := by
            simp [Phrase.tokens, Token.chars]
          constructor
          · intro same
            rw [same] at bracket
            exact absurd bracket (by decide)
          · simp [Arguments.phrases, namesByte]
  | more phrase others =>
      have comma : ',' ∈ (Arguments.more phrase others).tokens.flatMap Token.chars := by
        simp [Arguments.tokens, Token.chars]
      constructor
      · intro same
        rw [same] at comma
        exact absurd comma (by decide)
      · cases others <;> simp [Arguments.phrases, namesByte]

theorem toOption_eq_some_iff {ε α : Type} {result : Except ε α} {value : α} :
    result.toOption = some value ↔ result = .ok value := by
  cases result <;> simp [Except.toOption]

theorem interpret_eq_meaning {isModel : String → Bool} {run argumentText : List Char}
    {arguments : List Phrase} {types : List TypeExpr}
    (same : argumentText = "<u8>".toList ↔ namesByte arguments = true) :
    (interpret isModel run argumentText types).toOption =
      meaning isModel run arguments types := by
  have byte : (argumentText == "<u8>".toList) = namesByte arguments := by
    rw [Bool.eq_iff_iff, beq_iff_eq]
    exact same
  unfold interpret meaning
  rw [byte]
  simp only [Bool.and_eq_true, beq_iff_eq, List.contains_eq_mem, decide_eq_true_eq,
    List.isEmpty_iff]
  generalize String.ofList (Scalar.lastSegment run) = word
  -- The rules stand in the same order on both sides.
  by_cases bytes : word = "Vec" ∧ namesByte arguments = true
  · rw [if_pos bytes, if_pos bytes]
    rfl
  rw [if_neg bytes, if_neg bytes]
  by_cases isArray : word ∈ arrayContainers
  · rw [if_pos isArray, if_pos isArray]
    rcases types with _ | ⟨element, _ | _⟩ <;> rfl
  rw [if_neg isArray, if_neg isArray]
  by_cases isMap : word ∈ mapContainers
  · rw [if_pos isMap, if_pos isMap]
    rcases types with _ | ⟨key, _ | ⟨value, _ | _⟩⟩ <;> rfl
  rw [if_neg isMap, if_neg isMap]
  by_cases model : types = [] ∧ isModel (String.ofList run) = true
  · rw [if_pos model, if_pos model]
    rfl
  rw [if_neg model, if_neg model]
  cases Scalar.ofName? run with
  | some s => rfl
  | none => cases types <;> rfl

theorem interpret_bare (isModel : String → Bool) (run : List Char) :
    (interpret isModel run [] []).toOption = (Phrase.path run).value isModel := by
  rw [Phrase.value]
  exact interpret_eq_meaning (by decide)

theorem interpret_applied {isModel : String → Bool} {arguments : Arguments}
    {types : List TypeExpr} (values : arguments.values isModel = some types) (run : List Char) :
    (interpret isModel run ((Token.mark '<' :: arguments.tokens).flatMap Token.chars)
      types).toOption = (Phrase.applied run arguments).value isModel := by
  rw [Phrase.value, values]
  exact interpret_eq_meaning (arguments_spell_byte arguments)

/-! ### What a call returns -/

def FaultAhead (cursor : Cursor) (fault : TypeFault) : Prop :=
  ∃ stop : Cursor, cursor.Advances stop ∧ stop.offset = fault.offset

theorem FaultAhead.before {start cursor : Cursor} {fault : TypeFault}
    (ahead : FaultAhead cursor fault) (advances : start.Advances cursor) :
    FaultAhead start fault := by
  obtain ⟨stop, further, offset⟩ := ahead
  exact ⟨stop, advances.trans further, offset⟩

/-- A type was read off the tokens of a phrase with that value, or there is a fault ahead. -/
def ReadsType (isModel : String → Bool) (cursor : Cursor) :
    Except TypeFault (TypeExpr × Cursor) → Prop
  | .ok (type, after) =>
      ∃ phrase : Phrase, phrase.value isModel = some type ∧ cursor.Passes phrase.tokens after
  | .error fault => FaultAhead cursor fault

def ReadsArguments (isModel : String → Bool) (cursor : Cursor) :
    Except TypeFault (List TypeExpr × Cursor) → Prop
  | .ok (types, after) =>
      ∃ arguments : Arguments, arguments.values isModel = some types ∧
        cursor.Passes arguments.tokens after
  | .error fault => FaultAhead cursor fault

open Cursor in
theorem parseType_step {isModel : String → Bool} {fuel : Nat}
    (reads : ∀ inside, ReadsArguments isModel inside (parseArguments isModel fuel inside))
    (cursor : Cursor) : ReadsType isModel cursor (parseType isModel (fuel + 1) cursor) := by
  rw [parseType]
  split
  next inside opened =>
      have passesOpen := passes_eat? (by decide) opened
      split
      next after closed =>
          exact ⟨.unit, rfl, passesOpen.append (passes_eat? (by decide) closed)⟩
      next =>
          have passes := passesOpen.append (passes_skipBlanks inside)
          exact ⟨inside.skipBlanks, passes.advances, rfl⟩
  next =>
      have toStart := passes_skipBlanks cursor
      dsimp only
      split
      next => exact ⟨cursor.skipBlanks, toStart.advances, rfl⟩
      next named =>
          have passesPath := toStart.append (passes_path (by simpa using named))
          -- What follows depends on the path and the cursor behind it only.
          generalize cursor.skipBlanks.rest.take _ = run at passesPath ⊢
          generalize (⟨_, _⟩ : Cursor) = behind at passesPath ⊢
          split
          next noArguments =>
              have toEnd := passesPath.append (passes_skipBlanks behind)
              split
              next type meant =>
                  refine ⟨.path run, ?_, toEnd⟩
                  rw [← interpret_bare, meant]
                  rfl
              next => exact ⟨behind.skipBlanks, toEnd.advances, rfl⟩
          next inside opened =>
              have passesOpen := passes_eat? (by decide) opened
              have found := reads inside
              split
              next fault faulty =>
                  rw [faulty] at found
                  exact found.before (passesPath.append passesOpen).advances
              next types after read =>
                  rw [read] at found
                  obtain ⟨arguments, values, passes⟩ := found
                  have text := (passesOpen.append passes).wordTo_eq
                  have whole := passesPath.append (passesOpen.append passes)
                  split
                  next type meant =>
                      refine ⟨.applied run arguments, ?_, whole⟩
                      rw [← interpret_applied values run]
                      exact congrArg Except.toOption (text ▸ meant)
                  next => exact ⟨after, whole.advances, rfl⟩

open Cursor in
theorem parseArguments_step {isModel : String → Bool} {fuel : Nat}
    (readsType : ∀ cursor, ReadsType isModel cursor (parseType isModel fuel cursor))
    (reads : ∀ cursor, ReadsArguments isModel cursor (parseArguments isModel fuel cursor))
    (cursor : Cursor) :
    ReadsArguments isModel cursor (parseArguments isModel (fuel + 1) cursor) := by
  rw [parseArguments]
  have found := readsType cursor
  split
  next fault faulty =>
      rw [faulty] at found
      exact found
  next first behind read =>
      rw [read] at found
      obtain ⟨phrase, value, passes⟩ := found
      split
      next after comma =>
          have toNext := passes.append (passes_eat? (by decide) comma)
          have others := reads after
          split
          next fault faulty =>
              rw [faulty] at others
              exact others.before toNext.advances
          next types last rest =>
              rw [rest] at others
              obtain ⟨arguments, values, passesOthers⟩ := others
              refine ⟨.more phrase arguments, by simp [Arguments.values, value, values], ?_⟩
              simpa [Arguments.tokens] using toNext.append passesOthers
      next =>
          split
          next after closed =>
              exact ⟨.last phrase, by simp [Arguments.values, value],
                passes.append (passes_eat? (by decide) closed)⟩
          next =>
              have toEnd := passes.append (passes_skipBlanks behind)
              exact ⟨behind.skipBlanks, toEnd.advances, rfl⟩

theorem parse_reads (isModel : String → Bool) (fuel : Nat) :
    (∀ cursor, ReadsType isModel cursor (parseType isModel fuel cursor)) ∧
      ∀ cursor, ReadsArguments isModel cursor (parseArguments isModel fuel cursor) := by
  induction fuel with
  | zero =>
      have here (cursor : Cursor) : FaultAhead cursor ⟨.missingName, cursor.offset⟩ :=
        ⟨cursor, .refl cursor, rfl⟩
      exact ⟨here, here⟩
  | succ fuel ih => exact ⟨parseType_step ih.2, parseArguments_step ih.1 ih.2⟩

/-! ### Fuel -/

open Cursor in
theorem parseType_fuel {isModel : String → Bool} {fuel more : Nat}
    (stable : ∀ inside : Cursor, 2 * inside.rest.length + 2 ≤ fuel →
      parseArguments isModel (fuel + more) inside = parseArguments isModel fuel inside)
    {cursor : Cursor} (enough : 2 * cursor.rest.length + 1 ≤ fuel + 1) :
    parseType isModel (fuel + more + 1) cursor = parseType isModel (fuel + 1) cursor := by
  rw [parseType, parseType]
  cases opened : cursor.eat? '(' with
  | some inside => rfl
  | none =>
      dsimp only
      by_cases unnamed : (pathLength cursor.skipBlanks.rest == 0) = true
      · rw [if_pos unnamed, if_pos unnamed]
      · have passesPath := (passes_skipBlanks cursor).append (passes_path (by simpa using unnamed))
        rw [if_neg unnamed, if_neg unnamed]
        generalize (⟨_, _⟩ : Cursor) = behind at passesPath ⊢
        cases bracket : behind.eat? '<' with
        | none => rfl
        | some inside =>
            -- The path and the bracket are two characters at least, and one would do.
            have passes := passesPath.append (passes_eat? (by decide) bracket)
            have shorter := passes.shorter (by simp)
            dsimp only
            rw [stable inside (by omega)]

open Cursor in
theorem parseArguments_fuel {isModel : String → Bool} {fuel more : Nat}
    (stableType : ∀ cursor : Cursor, 2 * cursor.rest.length + 1 ≤ fuel →
      parseType isModel (fuel + more) cursor = parseType isModel fuel cursor)
    (stable : ∀ cursor : Cursor, 2 * cursor.rest.length + 2 ≤ fuel →
      parseArguments isModel (fuel + more) cursor = parseArguments isModel fuel cursor)
    {cursor : Cursor} (enough : 2 * cursor.rest.length + 2 ≤ fuel + 1) :
    parseArguments isModel (fuel + more + 1) cursor = parseArguments isModel (fuel + 1) cursor := by
  rw [parseArguments, parseArguments, stableType cursor (by omega)]
  have reads := (parse_reads isModel fuel).1 cursor
  cases read : parseType isModel fuel cursor with
  | error fault => rfl
  | ok result =>
      obtain ⟨first, behind⟩ := result
      rw [read] at reads
      obtain ⟨phrase, _, passes⟩ := reads
      dsimp only
      cases comma : behind.eat? ',' with
      | none => rfl
      | some next =>
          have shorter := (passes.append (passes_eat? (by decide) comma)).shorter (by simp)
          dsimp only
          rw [stable next (by omega)]

theorem parse_fuel (isModel : String → Bool) (fuel more : Nat) :
    (∀ cursor : Cursor, 2 * cursor.rest.length + 1 ≤ fuel →
      parseType isModel (fuel + more) cursor = parseType isModel fuel cursor) ∧
    ∀ cursor : Cursor, 2 * cursor.rest.length + 2 ≤ fuel →
      parseArguments isModel (fuel + more) cursor = parseArguments isModel fuel cursor := by
  induction fuel with
  | zero => exact ⟨fun _ enough => by omega, fun _ enough => by omega⟩
  | succ fuel ih =>
      obtain ⟨stableType, stable⟩ := ih
      rw [Nat.add_right_comm]
      exact ⟨fun _ => parseType_fuel stable, fun _ => parseArguments_fuel stableType stable⟩

/-! ### Every phrase is read -/

theorem parseType_named (isModel : String → Bool) (fuel : Nat) {run : List Char}
    {later : List Token} {cursor : Cursor} (spelled : Spelled (.path run :: later) cursor.rest) :
    ∃ behind : Cursor, Spelled later behind.rest ∧
      parseType isModel (fuel + 1) cursor =
        match behind.eat? '<' with
        | none =>
          match interpret isModel run [] [] with
          | .ok type => .ok (type, behind.skipBlanks)
          | .error cause => behind.skipBlanks.fault cause
        | some inside =>
          match parseArguments isModel fuel inside with
          | .error fault => .error fault
          | .ok (arguments, after) =>
            match interpret isModel run (behind.wordTo after) arguments with
            | .ok type => .ok (type, after)
            | .error cause => after.fault cause := by
  have noBracket : cursor.eat? '(' = none :=
    Cursor.eat?_eq_none (by decide) spelled (by simp)
  obtain ⟨rest, split, nonempty, isRun, ends, spelledRest⟩ := spelled_path_iff.mp spelled
  have whole : cursor.skipBlanks.rest = run ++ rest := split
  have named : ¬(run.length == 0) = true := by simpa using nonempty
  refine ⟨⟨rest, cursor.skipBlanks.offset + run.length⟩, spelledRest, ?_⟩
  rw [parseType, noBracket]
  dsimp only
  rewrite [whole, isRun.pathLength_append ends, List.take_left, List.drop_left, if_neg named]
  rfl

theorem Phrase.tokens_ne_nil (phrase : Phrase) : phrase.tokens ≠ [] := by
  cases phrase <;> simp [Phrase.tokens]

theorem Arguments.tokens_ne_nil (arguments : Arguments) : arguments.tokens ≠ [] := by
  cases arguments <;> simp [Arguments.tokens]

mutual

theorem Phrase.read (isModel : String → Bool) (phrase : Phrase) {fuel : Nat} {cursor : Cursor}
    {type : TypeExpr} {later : List Token} (enough : phrase.tokens.length ≤ fuel)
    (value : phrase.value isModel = some type)
    (spelled : Spelled (phrase.tokens ++ later) cursor.rest)
    (ends : later.head? ≠ some (.mark '<')) :
    ∃ after, parseType isModel fuel cursor = .ok (type, after) ∧ Spelled later after.rest := by
  -- A call never goes deeper than there are tokens ahead of it.
  have positive := List.length_pos_iff.mpr phrase.tokens_ne_nil
  obtain ⟨fuel, rfl⟩ : ∃ less, fuel = less + 1 := ⟨fuel - 1, by omega⟩
  match phrase with
  | .unit =>
      obtain ⟨inside, opened, spelledInside⟩ := Cursor.eat?_of_spelled spelled
      obtain ⟨after, closed, behind⟩ := Cursor.eat?_of_spelled spelledInside
      obtain rfl := Option.some.inj value
      exact ⟨after, by simp [parseType, opened, closed], behind⟩
  | .path run =>
      obtain ⟨behind, spelledBehind, call⟩ := parseType_named isModel fuel spelled
      have bare : behind.eat? '<' = none := Cursor.eat?_eq_none (by decide) spelledBehind ends
      rw [← interpret_bare, toOption_eq_some_iff] at value
      rw [call, bare]
      dsimp only
      rw [value]
      exact ⟨behind.skipBlanks, rfl, spelled_dropBlanks_iff.mpr spelledBehind⟩
  | .applied run arguments =>
      obtain ⟨behind, spelledBehind, call⟩ := parseType_named isModel fuel spelled
      obtain ⟨inside, opened, spelledInside⟩ := Cursor.eat?_of_spelled spelledBehind
      obtain ⟨types, values, _⟩ := Option.bind_eq_some_iff.mp value
      have enoughInside : arguments.tokens.length ≤ fuel := by
        simp only [Phrase.tokens, List.length_cons] at enough
        omega
      obtain ⟨after, reads, spelledAfter⟩ :=
        arguments.read isModel enoughInside values spelledInside
      have text : behind.wordTo after =
          (Token.mark '<' :: arguments.tokens).flatMap Token.chars := by
        have advances := (parse_reads isModel fuel).2 inside
        rw [reads] at advances
        obtain ⟨_, _, passes⟩ := advances
        have whole := (Cursor.passes_eat? (by decide) opened).append passes
        exact Cursor.wordTo_eq whole.advances spelledBehind spelledAfter
      rw [← interpret_applied values, toOption_eq_some_iff] at value
      rw [call, opened]
      dsimp only
      rw [reads]
      dsimp only
      rw [text, value]
      exact ⟨after, rfl, spelledAfter⟩

theorem Arguments.read (isModel : String → Bool) (arguments : Arguments) {fuel : Nat}
    {cursor : Cursor} {types : List TypeExpr} {later : List Token}
    (enough : arguments.tokens.length ≤ fuel) (values : arguments.values isModel = some types)
    (spelled : Spelled (arguments.tokens ++ later) cursor.rest) :
    ∃ after, parseArguments isModel fuel cursor = .ok (types, after) ∧
      Spelled later after.rest := by
  have positive := List.length_pos_iff.mpr arguments.tokens_ne_nil
  obtain ⟨fuel, rfl⟩ : ∃ less, fuel = less + 1 := ⟨fuel - 1, by omega⟩
  match arguments with
  | .last phrase =>
      obtain ⟨type, value, rfl⟩ := Option.map_eq_some_iff.mp values
      rw [Arguments.tokens, List.append_assoc] at spelled
      have enoughPhrase : phrase.tokens.length ≤ fuel := by
        simp only [Arguments.tokens, List.length_append, List.length_singleton] at enough
        omega
      obtain ⟨behind, reads, spelledBehind⟩ :=
        phrase.read isModel enoughPhrase value spelled (by simp)
      have noComma : behind.eat? ',' = none :=
        Cursor.eat?_eq_none (by decide) spelledBehind (by simp)
      obtain ⟨after, closed, spelledAfter⟩ := Cursor.eat?_of_spelled spelledBehind
      exact ⟨after, by simp only [parseArguments, reads, noComma, closed], spelledAfter⟩
  | .more phrase others =>
      obtain ⟨type, value, rest⟩ := Option.bind_eq_some_iff.mp values
      obtain ⟨types, valuesOthers, rfl⟩ := Option.map_eq_some_iff.mp rest
      rw [Arguments.tokens, List.append_assoc] at spelled
      simp only [Arguments.tokens, List.length_append, List.length_cons] at enough
      have enoughPhrase : phrase.tokens.length ≤ fuel := by omega
      have enoughOthers : others.tokens.length ≤ fuel := by omega
      obtain ⟨behind, reads, spelledBehind⟩ :=
        phrase.read isModel enoughPhrase value spelled (by simp)
      obtain ⟨next, comma, spelledNext⟩ := Cursor.eat?_of_spelled spelledBehind
      obtain ⟨after, readsOthers, spelledAfter⟩ :=
        others.read isModel enoughOthers valuesOthers spelledNext
      exact ⟨after, by simp only [parseArguments, reads, comma, readsOthers], spelledAfter⟩

end

end ApiContracts.TypeExpr
