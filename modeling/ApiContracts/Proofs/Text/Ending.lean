import ApiContracts.Proofs.Text.Words

/-!
A capitalized ASCII word at the end of a text. Whatever stands before it, even a character that
takes the capital into its own cluster, the snake case of the text ends in the word's small
letters.
-/

namespace ApiContracts.Text

def IsCapital (c : Char) : Prop := 'A' ≤ c ∧ c ≤ 'Z'

def IsSmall (c : Char) : Prop := 'a' ≤ c ∧ c ≤ 'z'

instance (c : Char) : Decidable (IsCapital c) := inferInstanceAs (Decidable (_ ∧ _))

instance (c : Char) : Decidable (IsSmall c) := inferInstanceAs (Decidable (_ ∧ _))

structure Capitalized (first : Char) (rest : List Char) : Prop where
  capital : IsCapital first
  small : ∀ c ∈ rest, IsSmall c

instance (first : Char) (rest : List Char) : Decidable (Capitalized first rest) :=
  decidable_of_iff (IsCapital first ∧ rest.all (decide <| IsSmall ·) = true)
    ⟨fun ⟨capital, small⟩ => ⟨capital, by simpa using small⟩,
      fun word => ⟨word.capital, by simpa using word.small⟩⟩

theorem IsCapital.ascii {c : Char} (capital : IsCapital c) : c.toNat < 128 := by
  have bound : c.toNat ≤ 'Z'.toNat := capital.2
  exact Nat.lt_of_le_of_lt bound (by decide)

theorem IsSmall.ascii {c : Char} (small : IsSmall c) : c.toNat < 128 := by
  have bound : c.toNat ≤ 'z'.toNat := small.2
  exact Nat.lt_of_le_of_lt bound (by decide)

theorem Capitalized.ascii {first : Char} {rest : List Char} (word : Capitalized first rest) :
    ∀ c ∈ first :: rest, c.toNat < 128 := by
  intro c member
  rcases List.mem_cons.mp member with rfl | later
  · exact word.capital.ascii
  · exact (word.small c later).ascii

structure PlainLetter (c : Char) : Prop where
  role : ClusterRole.of c = .other
  notUpper : Cluster.isUpper [c] = false
  notDigit : Cluster.isDigit [c] = false
  notSeparator : Cluster.isSeparator [c] = false

instance (c : Char) : Decidable (PlainLetter c) :=
  decidable_of_iff (ClusterRole.of c = .other ∧ Cluster.isUpper [c] = false ∧
      Cluster.isDigit [c] = false ∧ Cluster.isSeparator [c] = false)
    ⟨fun ⟨role, upper, digit, separator⟩ => ⟨role, upper, digit, separator⟩,
      fun plain => ⟨plain.role, plain.notUpper, plain.notDigit, plain.notSeparator⟩⟩

theorem IsSmall.plain {c : Char} (small : IsSmall c) : PlainLetter c :=
  of_asciiCodes (fun c => IsSmall c → PlainLetter c) (by decide +kernel) small.ascii small

theorem Capitalized.roles {first : Char} {rest : List Char} (word : Capitalized first rest) :
    ∀ c ∈ rest, ClusterRole.of c = .other :=
  fun c member => (word.small c member).plain.role

structure CapitalLetter (c : Char) : Prop where
  role : ClusterRole.of c = .other
  lowered : c.toLower ≠ c
  notDigit : isAsciiDigit c = false
  notSeparator : c ∉ ['_', '-', ' ']

instance (c : Char) : Decidable (CapitalLetter c) :=
  decidable_of_iff (ClusterRole.of c = .other ∧ c.toLower ≠ c ∧ isAsciiDigit c = false ∧
      c ∉ ['_', '-', ' '])
    ⟨fun ⟨role, lowered, digit, separator⟩ => ⟨role, lowered, digit, separator⟩,
      fun letter => ⟨letter.role, letter.lowered, letter.notDigit, letter.notSeparator⟩⟩

theorem IsCapital.letter {c : Char} (capital : IsCapital c) : CapitalLetter c :=
  of_asciiCodes (fun c => IsCapital c → CapitalLetter c) (by decide +kernel) capital.ascii capital

theorem joins_other {tail : ClusterTail} (last : tail.last = .other) :
    tail.joins .other = false := by
  simp [ClusterTail.joins, last, ClusterRole.isControl]

theorem clustersAfter_other {tail : ClusterTail} (last : tail.last = .other) {text : List Char}
    (others : ∀ c ∈ text, ClusterRole.of c = .other) :
    clustersAfter tail text = ([], text.map ([·])) := by
  induction text generalizing tail with
  | nil => rfl
  | cons c rest ih =>
      have role := others c (by simp)
      have pushed : (ClusterTail.push none (ClusterRole.of c)).last = .other := role
      have later := ih pushed fun d member => others d (List.mem_cons_of_mem _ member)
      simp only [clustersAfter, role, joins_other last, Bool.false_eq_true, ↓reduceIte]
      rw [role] at later
      rw [later]
      rfl

theorem clusters_other {text : List Char} (others : ∀ c ∈ text, ClusterRole.of c = .other) :
    clusters text = text.map ([·]) := by
  cases text with
  | nil => rfl
  | cons c rest =>
      have role := others c (by simp)
      have pushed : (ClusterTail.push none (ClusterRole.of c)).last = .other := role
      rw [clusters, clustersAfter_other pushed fun d member => others d (by simp [member])]
      rfl

/-- The clusters of a text end in those of the word behind it; only its capital may join what is
before it. -/
theorem clustersAfter_capitalized {first : Char} {rest : List Char}
    (word : Capitalized first rest) (tail : ClusterTail) (before : Cluster) (text : List Char) :
    ∃ front lead, (before ++ (clustersAfter tail (text ++ first :: rest)).1) ::
        (clustersAfter tail (text ++ first :: rest)).2 =
      front ++ (lead ++ [first]) :: rest.map ([·]) := by
  -- `before` is what the open cluster has gathered; the capital closes it or joins it.
  induction text generalizing tail before with
  | nil =>
      have role := word.capital.letter.role
      rw [List.nil_append, clustersAfter]
      split
      · rw [clustersAfter_other role word.roles]
        exact ⟨[], before, rfl⟩
      · rw [clustersAfter_other role word.roles]
        exact ⟨[before], [], by simp⟩
  | cons c text ih =>
      rw [List.cons_append, clustersAfter]
      split
      · obtain ⟨front, lead, same⟩ :=
          ih (ClusterTail.push (some tail) (ClusterRole.of c)) (before ++ [c])
        exact ⟨front, lead, by simpa using same⟩
      · obtain ⟨front, lead, same⟩ := ih (ClusterTail.push none (ClusterRole.of c)) [c]
        refine ⟨before :: front, lead, ?_⟩
        rw [List.singleton_append] at same
        simpa using same

theorem clusters_capitalized {first : Char} {rest : List Char} (word : Capitalized first rest)
    (text : List Char) :
    ∃ front lead, clusters (text ++ first :: rest) =
      front ++ (lead ++ [first]) :: rest.map ([·]) := by
  cases text with
  | nil =>
      refine ⟨[], [], clusters_other ?_⟩
      exact List.forall_mem_cons.mpr ⟨word.capital.letter.role, word.roles⟩
  | cons c text =>
      obtain ⟨front, lead, same⟩ :=
        clustersAfter_capitalized word (ClusterTail.push none (ClusterRole.of c)) [c] text
      exact ⟨front, lead, by simpa [clusters] using same⟩

theorem splitWords_letters {text : List Char} (letters : ∀ c ∈ text, IsSmall c) :
    splitWords (text.map ([·])) = [text] := by
  induction text with
  | nil => rfl
  | cons c rest ih =>
      have plain := (letters c (by simp)).plain
      have later : ∀ d ∈ rest, IsSmall d :=
        fun d member => letters d (List.mem_cons_of_mem _ member)
      have goesOn : Cluster.endsWord [c] (rest.map ([·])) = false := by
        cases rest with
        | nil => rfl
        | cons d others =>
            have next := (later d (by simp)).plain
            simp [Cluster.endsWord, plain.notUpper, plain.notDigit, next.notUpper, next.notDigit]
      rw [List.map_cons, splitWords, plain.notSeparator, goesOn, ih later]
      rfl

theorem splitWords_capitalized {first : Char} {rest : List Char} (word : Capitalized first rest)
    (lead : List Char) :
    splitWords ((lead ++ [first]) :: rest.map ([·])) = [lead ++ first :: rest] := by
  have letter := word.capital.letter
  have notSeparator : Cluster.isSeparator (lead ++ [first]) = false := by
    have different : ∀ c ∈ ['_', '-', ' '], lead ++ [first] ≠ [c] := by
      intro c member same
      have last : first = c := by simpa using congrArg List.getLast? same
      exact letter.notSeparator (last ▸ member)
    simpa [Cluster.isSeparator, and_assoc] using different
  have notLower : Cluster.isLower (lead ++ [first]) = false := by
    have ascii : ∀ c ∈ [first], c.toNat < 128 := by
      simpa using word.capital.ascii
    have ends : [first].map Char.toLower <:+ lower (lead ++ [first]) :=
      lowerAfter_suffix ascii [] lead
    have changed : lead ++ [first] ≠ lower (lead ++ [first]) := by
      intro same
      rw [← same] at ends
      obtain ⟨front, split⟩ := ends
      exact letter.lowered (by simpa using congrArg List.getLast? split)
    simp [Cluster.isLower, changed]
  have notDigit : Cluster.isDigit (lead ++ [first]) = false := by
    simp [Cluster.isDigit, letter.notDigit]
  have goesOn : Cluster.endsWord (lead ++ [first]) (rest.map ([·])) = false := by
    cases rest with
    | nil => rfl
    | cons d others =>
        have next := (word.small d (by simp)).plain
        simp [Cluster.endsWord, notLower, notDigit, next.notUpper, next.notDigit]
  rw [splitWords, notSeparator, goesOn, splitWords_letters word.small]
  simp

theorem splitWords_append {pieces : List Cluster} {lead ending : List Char}
    (single : splitWords pieces = [lead ++ ending]) (front : List Cluster) :
    ∃ words lead, splitWords (front ++ pieces) = words ++ [lead ++ ending] := by
  induction front with
  | nil => exact ⟨[], lead, single⟩
  | cons piece front ih =>
      obtain ⟨words, lead, same⟩ := ih
      rw [List.cons_append, splitWords]
      split
      · exact ⟨[] :: words, lead, by simp [same]⟩
      · split
        · exact ⟨piece :: words, lead, by simp [same]⟩
        · cases words with
          | nil => exact ⟨[], piece ++ lead, by simp [same]⟩
          | cons word others => exact ⟨(piece ++ word) :: others, lead, by simp [same]⟩

theorem suffix_intercalate (separator : List Char) (pieces : List (List Char))
    (last : List Char) : last <:+ List.intercalate separator (pieces ++ [last]) := by
  induction pieces with
  | nil => simp
  | cons piece rest ih =>
      obtain ⟨next, others, split⟩ := List.exists_cons_of_ne_nil (show rest ++ [last] ≠ [] by simp)
      rw [List.cons_append, split, List.intercalate_cons_cons, ← split]
      exact ih.trans (List.suffix_append _ _)

theorem snake_capitalized {first : Char} {rest : List Char} (word : Capitalized first rest)
    (text : List Char) :
    (first :: rest).map Char.toLower <:+ snake (text ++ first :: rest) := by
  obtain ⟨front, lead, pieces⟩ := clusters_capitalized word text
  obtain ⟨others, lead, split⟩ := splitWords_append (splitWords_capitalized word lead) front
  have same : words (text ++ first :: rest) = others ++ [lead ++ first :: rest] := by
    rw [words, pieces, ← split]
    split
    next empty => simp at empty
    next => rfl
  rw [snake, same, List.map_append]
  exact (lowerAfter_suffix word.ascii [] lead).trans (suffix_intercalate _ _ _)

end ApiContracts.Text
