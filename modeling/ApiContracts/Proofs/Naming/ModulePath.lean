import ApiContracts.Proofs.Naming.Keyword
import ApiContracts.Proofs.Text.Words

/-!
Paths that lead to modules. Their segments are names, behind those that say where the path starts;
which characters beyond ASCII a name may have is left open.
-/

namespace ApiContracts

open Text

namespace Text

theorem append_inj_of_uncut {c : Char} {front other back rest : List Char}
    (frontUncut : c ∉ front) (otherUncut : c ∉ other) (backCut : ∀ d ∈ back.head?, d = c)
    (restCut : ∀ d ∈ rest.head?, d = c) (same : front ++ back = other ++ rest) :
    front = other ∧ back = rest := by
  rcases List.append_eq_append_iff.mp same with ⟨more, longer, split⟩ | ⟨more, longer, split⟩
  · cases more with
    | nil => exact ⟨by simpa using longer.symm, by simpa using split⟩
    | cons d later =>
        obtain rfl := backCut d (by simp [split])
        exact absurd (by simp [longer]) otherUncut
  · cases more with
    | nil => exact ⟨by simpa using longer, by simpa using split.symm⟩
    | cons d later =>
        obtain rfl := restCut d (by simp [split])
        exact absurd (by simp [longer]) frontUncut

theorem intercalate_colons_inj {segments others : List (List Char)}
    (uncut : ∀ segment ∈ segments, ':' ∉ segment) (otherUncut : ∀ segment ∈ others, ':' ∉ segment)
    (nonempty : segments ≠ []) (otherNonempty : others ≠ [])
    (same : List.intercalate [':', ':'] segments = List.intercalate [':', ':'] others) :
    segments = others := by
  induction segments generalizing others with
  | nil => contradiction
  | cons first rest ih =>
      obtain ⟨other, more, rfl⟩ := List.exists_cons_of_ne_nil otherNonempty
      obtain ⟨firstUncut, restUncut⟩ := List.forall_mem_cons.mp uncut
      obtain ⟨secondUncut, moreUncut⟩ := List.forall_mem_cons.mp otherUncut
      -- Where only one path goes on, its colons would have to be in the last segment of the other.
      cases rest with
      | nil =>
          cases more with
          | nil => simpa using same
          | cons next later =>
              rw [List.intercalate_singleton, List.intercalate_cons_cons] at same
              exact absurd (by simp [same]) firstUncut
      | cons next later =>
          cases more with
          | nil =>
              rw [List.intercalate_singleton, List.intercalate_cons_cons] at same
              exact absurd (by simp [← same]) secondUncut
          | cons second behind =>
              rw [List.intercalate_cons_cons, List.intercalate_cons_cons, List.append_assoc,
                List.append_assoc] at same
              obtain ⟨rfl, tails⟩ :=
                append_inj_of_uncut firstUncut secondUncut (by simp) (by simp) same
              rw [List.append_cancel_left_eq] at tails
              rw [ih restUncut moreUncut (by simp) (by simp) tails]

end Text

namespace Naming

structure Alphabet where
  starts : Char → Bool
  continues : Char → Bool
  starts_ascii : ∀ c : Char, c.toNat < 128 → starts c = startsIdentifier c
  continues_ascii : ∀ c : Char, c.toNat < 128 → continues c = continuesIdentifier c

namespace Alphabet

def ascii : Alphabet :=
  { starts := startsIdentifier
    continues := continuesIdentifier
    starts_ascii := fun _ _ => rfl
    continues_ascii := fun _ _ => rfl }

variable (alphabet : Alphabet)

def IsWord (name : String) : Prop :=
  ∃ first rest, name.toList = first :: rest ∧ alphabet.starts first = true ∧
    ∀ c ∈ rest, alphabet.continues c = true

inductive IsModuleName : String → Prop
  | plain {name : String} (isWord : alphabet.IsWord name) (notLone : name ≠ "_")
      (notKeyword : name ∉ keywords) : IsModuleName name
  | raw {word : String} (isWord : alphabet.IsWord word) (notLone : word ≠ "_")
      (notPlace : word ∉ placeKeywords) : IsModuleName ("r#" ++ word)

def IsStart (segments : List String) : Prop :=
  segments = ["crate"] ∨
    ∃ count, segments = List.replicate count "super" ∨
      segments = "self" :: List.replicate count "super"

def IsModulePath (path : String) : Prop :=
  ∃ start names, start ++ names ≠ [] ∧ IsStart start ∧ (∀ name ∈ names, alphabet.IsModuleName name) ∧
    path = "::".intercalate (start ++ names)

variable {alphabet}

theorem IsWord.lacks {name : String} (isWord : alphabet.IsWord name) {c : Char}
    (ascii : c.toNat < 128) (foreign : continuesIdentifier c = false) : c ∉ name.toList := by
  obtain ⟨first, rest, chars, starts, continues⟩ := isWord
  rw [chars, List.mem_cons, not_or]
  constructor
  · rintro rfl
    rw [alphabet.starts_ascii c ascii] at starts
    simp [((startsIdentifier_iff c).mp starts).1] at foreign
  · intro member
    have inside := continues c member
    rw [alphabet.continues_ascii c ascii, foreign] at inside
    contradiction

theorem IsModuleName.lacks {name : String} (isName : alphabet.IsModuleName name) {c : Char}
    (ascii : c.toNat < 128) (foreign : continuesIdentifier c = false) (notMark : c ≠ '#') :
    c ∉ name.toList := by
  cases isName with
  | plain isWord => exact isWord.lacks ascii foreign
  | raw isWord =>
      rw [String.toList_append, List.mem_append, not_or]
      refine ⟨?_, isWord.lacks ascii foreign⟩
      have notLetter : c ≠ 'r' := by
        rintro rfl
        exact absurd foreign (by decide)
      simp [notLetter, notMark]

theorem IsStart.lacks {segments : List String} (isStart : IsStart segments) {c : Char}
    (foreign : continuesIdentifier c = false) : ∀ segment ∈ segments, c ∉ segment.toList := by
  have letters :
      ∀ word ∈ ["crate", "self", "super"], word.toList.all continuesIdentifier = true := by
    decide
  have known : ∀ segment ∈ segments, segment ∈ ["crate", "self", "super"] := by
    rcases isStart with rfl | ⟨count, rfl | rfl⟩
    · simp
    · intro segment member
      simp [List.eq_of_mem_replicate member]
    · rw [List.forall_mem_cons]
      refine ⟨by simp, ?_⟩
      intro segment member
      simp [List.eq_of_mem_replicate member]
  intro segment member inside
  have letter := List.all_eq_true.mp (letters segment (known segment member)) c inside
  simp [letter] at foreign

theorem IsModuleName.uncut {name : String} (isName : alphabet.IsModuleName name) : ':' ∉ name.toList :=
  isName.lacks (by decide) (by decide) (by decide)

theorem crate_not_isName : ¬alphabet.IsModuleName "crate" := by
  intro isName
  generalize spelled : "crate" = name at isName
  cases isName with
  | plain _ _ notKeyword =>
      rw [← spelled] at notKeyword
      exact notKeyword (by decide)
  | raw => simpa using congrArg (·.toList.head?) spelled

theorem IsModulePath.segments {given : List String} (nonempty : given ≠ [])
    (uncut : ∀ segment ∈ given, ':' ∉ segment.toList)
    (isPath : alphabet.IsModulePath ("::".intercalate given)) :
    ∃ start names, given = start ++ names ∧ IsStart start ∧
      ∀ name ∈ names, alphabet.IsModuleName name := by
  obtain ⟨start, names, some_segment, isStart, areNames, same⟩ := isPath
  refine ⟨start, names, ?_, isStart, areNames⟩
  have otherUncut : ∀ segment ∈ start ++ names, ':' ∉ segment.toList :=
    List.forall_mem_append.mpr
      ⟨isStart.lacks (by decide), fun name member => (areNames name member).uncut⟩
  have chars := congrArg String.toList same
  rw [String.toList_intercalate, String.toList_intercalate] at chars
  have segments := intercalate_colons_inj (List.forall_mem_map.mpr uncut)
    (List.forall_mem_map.mpr otherUncut) (by simpa using nonempty) (by simpa using some_segment)
    chars
  exact (List.map_inj_right fun _ _ => String.toList_injective).mp segments

theorem isModulePath_crate_iff {segment : String} (whole : ':' ∉ segment.toList) :
    alphabet.IsModulePath ("crate::" ++ segment) ↔ alphabet.IsModuleName segment := by
  have joined : "crate::" ++ segment = "::".intercalate ["crate", segment] := by
    simp
  constructor
  · intro isPath
    rw [joined] at isPath
    have uncut : ∀ other ∈ ["crate", segment], ':' ∉ other.toList := by
      simpa using whole
    obtain ⟨start, names, same, isStart, areNames⟩ := isPath.segments (by simp) uncut
    -- Of what a path may start with, only the package fits the first segment.
    rcases isStart with rfl | ⟨count, rfl | rfl⟩
    · obtain rfl : names = [segment] := by simpa using same.symm
      exact areNames segment List.mem_cons_self
    · cases count with
      | zero =>
          obtain rfl : names = ["crate", segment] := by simpa using same.symm
          exact absurd (areNames "crate" List.mem_cons_self) crate_not_isName
      | succ count => simp [List.replicate_succ] at same
    · simp at same
  · intro isName
    exact ⟨["crate"], [segment], by simp, .inl rfl, by simpa using isName, joined⟩

theorem isModulePath_iff {segment : String} (whole : ':' ∉ segment.toList) :
    alphabet.IsModulePath segment ↔
      alphabet.IsModuleName segment ∨ segment ∈ ["crate", "self", "super"] := by
  have joined : segment = "::".intercalate [segment] := by simp
  constructor
  · intro isPath
    rw [joined] at isPath
    have uncut : ∀ other ∈ [segment], ':' ∉ other.toList := by simpa using whole
    obtain ⟨start, names, same, isStart, areNames⟩ := isPath.segments (by simp) uncut
    rcases List.append_eq_singleton_iff.mp same.symm with ⟨_, rfl⟩ | ⟨rfl, _⟩
    · exact .inl (areNames segment List.mem_cons_self)
    · right
      rcases isStart with starts | ⟨count, starts | starts⟩
      · simp [List.singleton_inj.mp starts]
      · have named := List.eq_of_mem_replicate (starts ▸ List.mem_singleton_self segment)
        simp [named]
      · simp [(List.cons.inj starts).1]
  · rintro (isName | isStart)
    · exact ⟨[], [segment], by simp, .inr ⟨0, .inl rfl⟩, by simpa using isName, by simp⟩
    · refine ⟨[segment], [], by simp, ?_, by simp, by simp⟩
      simp only [List.mem_cons, List.not_mem_nil, or_false] at isStart
      rcases isStart with rfl | rfl | rfl
      · exact .inl rfl
      · exact .inr ⟨0, .inr rfl⟩
      · exact .inr ⟨1, .inl rfl⟩

theorem IsModulePath.lacks {path : String} (isPath : alphabet.IsModulePath path) {c : Char}
    (ascii : c.toNat < 128) (foreign : continuesIdentifier c = false) (notMark : c ≠ '#')
    (notColon : c ≠ ':') : c ∉ path.toList := by
  obtain ⟨start, names, _, isStart, areNames, rfl⟩ := isPath
  rw [String.toList_intercalate]
  intro member
  rcases mem_intercalate member with between | ⟨piece, isPiece, inside⟩
  · exact notColon (by simpa using between)
  · obtain ⟨segment, isSegment, rfl⟩ := List.mem_map.mp isPiece
    rcases List.mem_append.mp isSegment with starts | isName
    · exact isStart.lacks foreign segment starts inside
    · exact (areNames segment isName).lacks ascii foreign notMark inside

theorem isWord_of_isIdentifier {name : String} (identifier : isIdentifier name = true) :
    alphabet.IsWord name := by
  rw [isIdentifier] at identifier
  split at identifier
  next => contradiction
  next first rest chars =>
      rw [Bool.and_eq_true, List.all_eq_true] at identifier
      obtain ⟨starts, continues⟩ := identifier
      have ascii := continuesIdentifier_ascii ((startsIdentifier_iff first).mp starts).1
      refine ⟨first, rest, chars, (alphabet.starts_ascii first ascii).trans starts, ?_⟩
      intro c member
      have inside := continues c member
      exact (alphabet.continues_ascii c (continuesIdentifier_ascii inside)).trans inside

theorem isName_iff_of_isIdentifier {name : String} (identifier : isIdentifier name = true) :
    alphabet.IsModuleName name ↔ name ≠ "_" ∧ name ∉ keywords := by
  constructor
  · intro isName
    cases isName with
    | plain _ notLone notKeyword => exact ⟨notLone, notKeyword⟩
    | raw =>
        -- The mark of a raw name is in no identifier.
        simp [isIdentifier, continuesIdentifier, isAsciiAlphanumeric] at identifier
  · rintro ⟨notLone, notKeyword⟩
    exact .plain (isWord_of_isIdentifier identifier) notLone notKeyword

end Alphabet

end Naming

end ApiContracts
