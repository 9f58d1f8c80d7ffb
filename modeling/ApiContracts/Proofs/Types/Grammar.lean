import ApiContracts.Proofs.Text.Case
import ApiContracts.Types.Parser

/-!
The grammar of declared types, apart from any way to read it: the tokens that a text spells, the
phrases that are made of tokens, and the type that a phrase stands for.
-/

namespace ApiContracts.TypeExpr

open Text

inductive Token where
  | path (run : List Char)
  | mark (c : Char)
deriving DecidableEq, Repr

def Token.chars : Token → List Char
  | path run => run
  | mark c => [c]

inductive PathRun : List Char → Prop
  | nil : PathRun []
  | char {c : Char} {run : List Char} : isPathChar c = true → PathRun run → PathRun (c :: run)
  | colons {run : List Char} : PathRun run → PathRun (':' :: ':' :: run)

def startsPath : List Char → Bool
  | [] => false
  | c :: rest => isPathChar c || (c == ':' && rest.head? == some ':')

/-- A text spells tokens: blanks stand anywhere between them, and no path ends where it could go
on. -/
inductive Spelled : List Token → List Char → Prop
  | nil : Spelled [] []
  | blank {c : Char} {tokens : List Token} {text : List Char} :
      isBlank c = true → Spelled tokens text → Spelled tokens (c :: text)
  | path {run : List Char} {tokens : List Token} {text : List Char} :
      run ≠ [] → PathRun run → startsPath text = false → Spelled tokens text →
      Spelled (.path run :: tokens) (run ++ text)
  | mark {c : Char} {tokens : List Token} {text : List Char} :
      isBlank c = false → startsPath (c :: text) = false → Spelled tokens text →
      Spelled (.mark c :: tokens) (c :: text)

mutual

inductive Phrase where
  | unit
  | path (run : List Char)
  | applied (run : List Char) (arguments : Arguments)

inductive Arguments where
  | last (phrase : Phrase)
  | more (phrase : Phrase) (others : Arguments)

end

mutual

def Phrase.tokens : Phrase → List Token
  | .unit => [.mark '(', .mark ')']
  | .path run => [.path run]
  | .applied run arguments => .path run :: .mark '<' :: arguments.tokens

def Arguments.tokens : Arguments → List Token
  | .last phrase => phrase.tokens ++ [.mark '>']
  | .more phrase others => phrase.tokens ++ .mark ',' :: others.tokens

end

def Arguments.phrases : Arguments → List Phrase
  | last phrase => [phrase]
  | more phrase others => phrase :: others.phrases

def namesByte : List Phrase → Bool
  | [.path run] => run == "u8".toList
  | _ => false

/-- What a path with arguments stands for, given what each argument stands for. The first rule
that applies decides. -/
def meaning (isModel : String → Bool) (run : List Char) (arguments : List Phrase)
    (types : List TypeExpr) : Option TypeExpr :=
  let word := String.ofList (Scalar.lastSegment run)
  if word = "Vec" ∧ namesByte arguments then some (scalar .binary)
  else if word ∈ arrayContainers then
    match types with
    | [element] => some (array element)
    | _ => none
  else if word ∈ mapContainers then
    match types with
    | [key, value] => some (map key value)
    | _ => none
  else if types = [] ∧ isModel (String.ofList run) then some (reference (String.ofList run))
  else
    match Scalar.ofName? run with
    | some s => some (scalar s)
    | none => if types = [] then some (reference (String.ofList run)) else none

mutual

def Phrase.value (isModel : String → Bool) : Phrase → Option TypeExpr
  | .unit => some (scalar .unit)
  | .path run => meaning isModel run [] []
  | .applied run arguments =>
      (arguments.values isModel).bind (meaning isModel run arguments.phrases)

def Arguments.values (isModel : String → Bool) : Arguments → Option (List TypeExpr)
  | .last phrase => (phrase.value isModel).map ([·])
  | .more phrase others =>
      (phrase.value isModel).bind fun first => (others.values isModel).map (first :: ·)

end

/-! ### Runs -/

theorem isPathChar_ascii {c : Char} (isPath : isPathChar c = true) : c.toNat < 128 := by
  have upTo : ∀ last : Char, last.toNat < 128 → c ≤ last → c.toNat < 128 := by
    intro last small below
    have bound : c.toNat ≤ last.toNat := below
    omega
  simp only [isPathChar, isAsciiAlphanumeric, Bool.or_eq_true, Bool.and_eq_true,
    decide_eq_true_eq, beq_iff_eq] at isPath
  rcases isPath with ((((⟨_, small⟩ | ⟨_, capital⟩) | ⟨_, digit⟩) | rfl) | rfl) | rfl
  · exact upTo 'z' (by decide) small
  · exact upTo 'Z' (by decide) capital
  · exact upTo '9' (by decide) digit
  all_goals decide

theorem isPathChar_notBlank {c : Char} (isPath : isPathChar c = true) : isBlank c = false :=
  of_asciiCodes (fun c => isPathChar c = true → isBlank c = false) (by decide)
    (isPathChar_ascii isPath) isPath

theorem PathRun.ascii {run : List Char} (isRun : PathRun run) : ∀ c ∈ run, c.toNat < 128 := by
  induction isRun with
  | nil => simp
  | char isPath _ ih => simpa [isPathChar_ascii isPath] using ih
  | colons _ ih => simpa using ih

theorem PathRun.notBlank {run : List Char} (isRun : PathRun run) :
    ∀ c ∈ run, isBlank c = false := by
  induction isRun with
  | nil => simp
  | char isPath _ ih => simpa [isPathChar_notBlank isPath] using ih
  | colons _ ih => simpa using ⟨by decide, ih⟩

theorem PathRun.startsPath_append {run : List Char} (isRun : PathRun run) (nonempty : run ≠ [])
    (text : List Char) : startsPath (run ++ text) = true := by
  cases isRun with
  | nil => exact absurd rfl nonempty
  | char isPath _ => simp [startsPath, isPath]
  | colons _ => simp [startsPath]

theorem startsPath_notBlank {c : Char} {text : List Char}
    (starts : startsPath (c :: text) = true) : isBlank c = false := by
  simp only [startsPath, Bool.or_eq_true, Bool.and_eq_true, beq_iff_eq] at starts
  rcases starts with isPath | ⟨rfl, _⟩
  · exact isPathChar_notBlank isPath
  · decide

theorem dropBlanks_startsPath {text : List Char} (starts : startsPath text = true) :
    text.dropWhile isBlank = text := by
  cases text with
  | nil => rfl
  | cons c rest => simp [startsPath_notBlank starts]

theorem startsPath_other {c : Char} {rest : List Char} (other : ¬isPathChar c = true)
    (single : ∀ later, c = ':' → rest = ':' :: later → False) : startsPath (c :: rest) = false := by
  have alone : c = ':' → rest.head? ≠ some ':' := by
    intro colon next
    obtain ⟨later, rfl⟩ := List.head?_eq_some_iff.mp next
    exact single later colon rfl
  simpa [startsPath, other] using alone

theorem pathLength_eq_zero_iff {text : List Char} :
    pathLength text = 0 ↔ startsPath text = false := by
  fun_cases pathLength text with
  | case1 rest => simp [startsPath]
  | case2 c rest _ isPath => simp [startsPath, isPath]
  | case3 c rest single other => simp [startsPath_other other single]
  | case4 => simp [startsPath]

theorem pathRun_take (text : List Char) : PathRun (text.take (pathLength text)) := by
  fun_induction pathLength text with
  | case1 rest ih => exact .colons ih
  | case2 c rest _ isPath ih => exact .char isPath ih
  | case3 => exact .nil
  | case4 => exact .nil

theorem startsPath_drop (text : List Char) :
    startsPath (text.drop (pathLength text)) = false := by
  fun_induction pathLength text with
  | case1 rest ih => exact ih
  | case2 c rest _ isPath ih => exact ih
  | case3 c rest single other => exact startsPath_other other single
  | case4 => rfl

theorem PathRun.pathLength_append {run text : List Char} (isRun : PathRun run)
    (ends : startsPath text = false) : pathLength (run ++ text) = run.length := by
  induction isRun with
  | nil => exact pathLength_eq_zero_iff.mpr ends
  | @char c run isPath _ ih =>
      have notColon : c ≠ ':' := by
        rintro rfl
        simp [show isPathChar ':' = false by decide] at isPath
      rw [List.cons_append, pathLength]
      · simp [isPath, ih]
      · rintro _ rfl
        exact absurd rfl notColon
  | colons _ ih => simp [pathLength, ih]

theorem length_take_pathLength (text : List Char) :
    (text.take (pathLength text)).length = pathLength text := by
  have long := (pathRun_take text).pathLength_append (startsPath_drop text)
  rw [List.take_append_drop] at long
  exact long.symm

instance (run : List Char) : Decidable (PathRun run) :=
  decidable_of_iff (pathLength run = run.length) <| by
    constructor
    · intro whole
      have isRun := pathRun_take run
      rwa [whole, List.take_length] at isRun
    · intro isRun
      have ends : startsPath [] = false := rfl
      have whole := isRun.pathLength_append ends
      rwa [List.append_nil] at whole

/-! ### Spellings -/

theorem spelled_blank_iff {c : Char} {tokens : List Token} {text : List Char}
    (blank : isBlank c = true) : Spelled tokens (c :: text) ↔ Spelled tokens text := by
  constructor
  · intro spelled
    generalize whole : c :: text = all at spelled
    cases spelled with
    | nil => simp at whole
    | blank _ later =>
        obtain ⟨-, rfl⟩ := List.cons.inj whole
        exact later
    | path nonempty isRun _ _ =>
        have starts := isRun.startsPath_append nonempty
        have notBlank := startsPath_notBlank (whole ▸ starts _)
        simp [notBlank] at blank
    | mark notBlank _ _ =>
        obtain ⟨rfl, -⟩ := List.cons.inj whole
        simp [blank] at notBlank
  · exact .blank blank

theorem spelled_dropBlanks_iff {tokens : List Token} {text : List Char} :
    Spelled tokens (text.dropWhile isBlank) ↔ Spelled tokens text := by
  induction text with
  | nil => rfl
  | cons c rest ih =>
      by_cases blank : isBlank c = true
      · rw [List.dropWhile_cons_of_pos blank, ih, spelled_blank_iff blank]
      · rw [List.dropWhile_cons_of_neg blank]

theorem spelled_nil_iff {text : List Char} :
    Spelled [] text ↔ text.dropWhile isBlank = [] := by
  constructor
  · intro spelled
    generalize none : ([] : List Token) = tokens at spelled
    induction spelled with
    | nil => rfl
    | blank blank _ ih => rw [List.dropWhile_cons_of_pos blank, ih none]
    | path => simp at none
    | mark => simp at none
  · intro blank
    rw [← spelled_dropBlanks_iff, blank]
    exact .nil

theorem spelled_path_iff {run : List Char} {tokens : List Token} {text : List Char} :
    Spelled (.path run :: tokens) text ↔
      ∃ rest, text.dropWhile isBlank = run ++ rest ∧ run ≠ [] ∧ PathRun run ∧
        startsPath rest = false ∧ Spelled tokens rest := by
  constructor
  · intro spelled
    generalize all : Token.path run :: tokens = whole at spelled
    induction spelled with
    | nil => simp at all
    | blank blank _ ih =>
        rw [List.dropWhile_cons_of_pos blank]
        exact ih all
    | path nonempty isRun ends later _ =>
        obtain ⟨same, rfl⟩ := List.cons.inj all
        obtain rfl := Token.path.inj same
        exact ⟨_, dropBlanks_startsPath (isRun.startsPath_append nonempty _), nonempty, isRun,
          ends, later⟩
    | mark => simp at all
  · rintro ⟨rest, split, nonempty, isRun, ends, later⟩
    rw [← spelled_dropBlanks_iff, split]
    exact .path nonempty isRun ends later

theorem spelled_mark_iff {c : Char} {tokens : List Token} {text : List Char} :
    Spelled (.mark c :: tokens) text ↔
      ∃ rest, text.dropWhile isBlank = c :: rest ∧ isBlank c = false ∧
        startsPath (c :: rest) = false ∧ Spelled tokens rest := by
  constructor
  · intro spelled
    generalize all : Token.mark c :: tokens = whole at spelled
    induction spelled with
    | nil => simp at all
    | blank blank _ ih =>
        rw [List.dropWhile_cons_of_pos blank]
        exact ih all
    | path => simp at all
    | mark notBlank single later _ =>
        obtain ⟨same, rfl⟩ := List.cons.inj all
        obtain rfl := Token.mark.inj same
        exact ⟨_, by simp [notBlank], notBlank, single, later⟩
  · rintro ⟨rest, split, notBlank, single, later⟩
    rw [← spelled_dropBlanks_iff, split]
    exact .mark notBlank single later

def punctuation : List Char := ['(', ')', '<', '>', ',']

theorem punctuation_ascii {c : Char} (known : c ∈ punctuation) : c.toNat < 128 := by
  have all : punctuation.all (·.toNat < 128) = true := by decide
  simpa using List.all_eq_true.mp all c known

theorem punctuation_notBlank {c : Char} (known : c ∈ punctuation) : isBlank c = false := by
  have all : punctuation.all (!isBlank ·) = true := by decide
  simpa using List.all_eq_true.mp all c known

theorem punctuation_single {c : Char} (known : c ∈ punctuation) (text : List Char) :
    startsPath (c :: text) = false := by
  have all : punctuation.all (fun c => !isPathChar c && c != ':') = true := by decide
  have other : isPathChar c = false ∧ c ≠ ':' := by
    simpa using List.all_eq_true.mp all c known
  simp [startsPath, other]

theorem Spelled.marked {c : Char} (known : c ∈ punctuation) {tokens : List Token}
    {text : List Char} (spelled : Spelled tokens text) :
    Spelled (.mark c :: tokens) (c :: text) :=
  .mark (punctuation_notBlank known) (punctuation_single known text) spelled

theorem startsPath_append {text behind : List Char} (ends : startsPath text = false)
    (other : startsPath behind = false) (noColon : behind.head? ≠ some ':') :
    startsPath (text ++ behind) = false := by
  cases text with
  | nil => exact other
  | cons c rest =>
      cases rest with
      | nil => simpa [startsPath, noColon] using ends
      | cons d rest => simpa [startsPath] using ends

theorem Spelled.spaced {before after : List Token} {front back : List Char}
    (spelledFront : Spelled before front) (spelledBack : Spelled after back) {blanks : List Char}
    (nonempty : blanks ≠ []) (blank : ∀ c ∈ blanks, isBlank c = true) :
    Spelled (before ++ after) (front ++ (blanks ++ back)) := by
  obtain ⟨c, others, rfl⟩ := List.exists_cons_of_ne_nil nonempty
  have isBlank : isBlank c = true := blank c (by simp)
  have closed {text : List Char} (ends : startsPath text = false) :
      startsPath (text ++ (c :: others ++ back)) = false := by
    refine startsPath_append ends ?_ ?_
    · cases starts : startsPath (c :: others ++ back) with
      | false => rfl
      | true => simp [startsPath_notBlank starts] at isBlank
    · intro colon
      obtain rfl : c = ':' := by simpa using colon
      exact absurd isBlank (by decide)
  induction spelledFront with
  | nil =>
      rw [List.nil_append, List.nil_append, ← spelled_dropBlanks_iff,
        List.dropWhile_append_of_pos blank, spelled_dropBlanks_iff]
      exact spelledBack
  | blank isBlank _ ih => exact .blank isBlank ih
  | @path run _ text nonempty isRun ends _ ih =>
      rw [List.cons_append, List.append_assoc]
      exact .path nonempty isRun (closed ends) ih
  | mark notBlank single _ ih => exact .mark notBlank (closed single) ih

theorem Spelled.named {tokens : List Token} {text : List Char}
    (spelled : Spelled tokens (text.drop (pathLength text))) (long : pathLength text ≠ 0) :
    Spelled (.path (text.take (pathLength text)) :: tokens) text := by
  have nonempty : text.take (pathLength text) ≠ [] := by
    rw [← List.length_pos_iff, length_take_pathLength]
    omega
  have whole := Spelled.path nonempty (pathRun_take text) (startsPath_drop text) spelled
  rwa [List.take_append_drop] at whole

theorem spelled_total (text : List Char) : ∃ tokens, Spelled tokens text := by
  induction size : text.length using Nat.strongRecOn generalizing text with
  | ind length ih =>
      cases text with
      | nil => exact ⟨[], .nil⟩
      | cons c rest =>
          rw [List.length_cons] at size
          by_cases starts : startsPath (c :: rest) = true
          · have positive : pathLength (c :: rest) ≠ 0 := by simp [pathLength_eq_zero_iff, starts]
            obtain ⟨tokens, later⟩ :=
              ih ((c :: rest).drop (pathLength (c :: rest))).length (by simp; omega) _ rfl
            exact ⟨_, later.named positive⟩
          · obtain ⟨tokens, later⟩ := ih rest.length (by omega) rest rfl
            by_cases blank : isBlank c = true
            · exact ⟨tokens, .blank blank later⟩
            · exact ⟨.mark c :: tokens, .mark (by simpa using blank) (by simpa using starts) later⟩

theorem Spelled.unique {tokens others : List Token} {text : List Char}
    (spelled : Spelled tokens text) (again : Spelled others text) : tokens = others := by
  induction spelled generalizing others with
  | nil =>
      generalize none : ([] : List Char) = text at again
      cases again with
      | nil => rfl
      | path nonempty => simp [nonempty] at none
      | blank => simp at none
      | mark => simp at none
  | blank blank _ ih => exact ih ((spelled_blank_iff blank).mp again)
  | @path run _ text nonempty isRun ends _ ih =>
      have starts := isRun.startsPath_append nonempty
      have whole := dropBlanks_startsPath (starts text)
      cases others with
      | nil =>
          rw [spelled_nil_iff, whole] at again
          simp [nonempty] at again
      | cons token others =>
          cases token with
          | path run =>
              obtain ⟨rest, split, _, isRun', ends', later⟩ := spelled_path_iff.mp again
              rw [whole] at split
              have long := isRun.pathLength_append ends
              rw [split, isRun'.pathLength_append ends'] at long
              obtain ⟨rfl, rfl⟩ := List.append_inj split long.symm
              rw [ih later]
          | mark c =>
              obtain ⟨rest, split, _, single, _⟩ := spelled_mark_iff.mp again
              rw [← split, whole, starts] at single
              simp at single
  | @mark c _ text notBlank single _ ih =>
      have whole : (c :: text).dropWhile isBlank = c :: text := by simp [notBlank]
      cases others with
      | nil =>
          rw [spelled_nil_iff, whole] at again
          simp at again
      | cons token others =>
          cases token with
          | path run =>
              obtain ⟨rest, split, nonempty, isRun, _, _⟩ := spelled_path_iff.mp again
              rw [← whole, split, isRun.startsPath_append nonempty] at single
              simp at single
          | mark d =>
              obtain ⟨rest, split, _, _, later⟩ := spelled_mark_iff.mp again
              obtain ⟨rfl, rfl⟩ := List.cons.inj (whole.symm.trans split)
              rw [ih later]

theorem Spelled.filter_eq {tokens : List Token} {text : List Char} (spelled : Spelled tokens text) :
    text.filter (!isBlank ·) = tokens.flatMap Token.chars := by
  induction spelled with
  | nil => rfl
  | blank blank _ ih => simpa [blank] using ih
  | path _ isRun _ _ ih =>
      rw [List.filter_append, ih, List.flatMap_cons, Token.chars]
      congr 1
      rw [List.filter_eq_self]
      intro c member
      simp [isRun.notBlank c member]
  | mark notBlank _ _ ih => simpa [notBlank, Token.chars] using ih

theorem Spelled.length_le {tokens : List Token} {text : List Char} (spelled : Spelled tokens text) :
    tokens.length ≤ text.length := by
  induction spelled with
  | nil => simp
  | blank _ _ ih => rw [List.length_cons]; omega
  | path nonempty _ _ _ ih =>
      have positive := List.length_pos_iff.mpr nonempty
      rw [List.length_append, List.length_cons]
      omega
  | mark _ _ _ ih => simpa using ih

end ApiContracts.TypeExpr
