import ApiContracts.Path
import Mathlib.Data.List.Basic

/-!
Cutting and joining paths: the pieces of a joined path, and its last name and its parent read off
those pieces.
-/

namespace ApiContracts

namespace Text

theorem splitAt_append (cut : Char → Bool) (front : List Char) {c : Char} (isCut : cut c = true)
    (back : List Char) :
    splitAt cut (front ++ c :: back) = splitAt cut front ++ splitAt cut back := by
  induction front with
  | nil => simp [splitAt, isCut]
  | cons d front ih =>
      rw [List.cons_append, splitAt, splitAt]
      split
      · simp [ih]
      · obtain ⟨piece, pieces, split⟩ := List.exists_cons_of_ne_nil (splitAt_ne_nil cut front)
        simp [ih, split]

theorem splitAt_plain {cut : Char → Bool} {ending : List Char}
    (plain : ∀ c ∈ ending, cut c = false) : splitAt cut ending = [ending] := by
  induction ending with
  | nil => rfl
  | cons c rest ih =>
      rw [splitAt, plain c (by simp), ih fun d member => plain d (List.mem_cons_of_mem _ member)]
      rfl

theorem splitAt_ending {cut : Char → Bool} {ending : List Char}
    (plain : ∀ c ∈ ending, cut c = false) (text : List Char) :
    ∃ front lead, splitAt cut (text ++ ending) = front ++ [lead ++ ending] := by
  induction text with
  | nil => exact ⟨[], [], by simp [splitAt_plain plain]⟩
  | cons c text ih =>
      obtain ⟨front, lead, same⟩ := ih
      rw [List.cons_append, splitAt]
      split
      · exact ⟨[] :: front, lead, by simp [same]⟩
      · cases front with
        | nil => exact ⟨[], c :: lead, by simp [same]⟩
        | cons piece others => exact ⟨(c :: piece) :: others, lead, by simp [same]⟩

theorem mem_splitAt_uncut {cut : Char → Bool} {text piece : List Char}
    (isPiece : piece ∈ splitAt cut text) : ∀ c ∈ piece, cut c = false := by
  induction text generalizing piece with
  | nil =>
      obtain rfl := List.mem_singleton.mp isPiece
      simp
  | cons c rest ih =>
      rw [splitAt] at isPiece
      split at isPiece
      · rcases List.mem_cons.mp isPiece with rfl | later
        · simp
        · exact ih later
      next uncut =>
          rw [Bool.not_eq_true] at uncut
          split at isPiece
          next noPieces => exact absurd noPieces (splitAt_ne_nil cut rest)
          next first others split =>
              rcases List.mem_cons.mp isPiece with rfl | later
              · exact List.forall_mem_cons.mpr ⟨uncut, ih (by simp [split])⟩
              · exact ih (by simp [split, later])

theorem splitAt_intercalate {separator : Char} {pieces : List (List Char)} (nonempty : pieces ≠ [])
    (uncut : ∀ piece ∈ pieces, separator ∉ piece) :
    splitAt (· == separator) (List.intercalate [separator] pieces) = pieces := by
  induction pieces with
  | nil => contradiction
  | cons piece rest ih =>
      obtain ⟨here, later⟩ := List.forall_mem_cons.mp uncut
      have whole : splitAt (· == separator) piece = [piece] := by
        apply splitAt_plain
        intro c member
        rw [beq_eq_false_iff_ne]
        rintro rfl
        exact here member
      cases rest with
      | nil => simpa using whole
      | cons next others =>
          rw [List.intercalate_cons_cons, List.append_assoc, List.singleton_append,
            splitAt_append (· == separator) _ (beq_self_eq_true separator), whole, ih (by simp) later]
          rfl

theorem intercalate_splitAt (separator : Char) (text : List Char) :
    List.intercalate [separator] (splitAt (· == separator) text) = text := by
  induction text with
  | nil => rfl
  | cons c rest ih =>
      obtain ⟨piece, pieces, split⟩ :=
        List.exists_cons_of_ne_nil (splitAt_ne_nil (· == separator) rest)
      rw [split] at ih
      rw [splitAt, split]
      split
      next cut =>
          obtain rfl := beq_iff_eq.mp cut
          rw [List.intercalate_cons_cons, ih]
          rfl
      next =>
          cases pieces with
          | nil => simpa using ih
          | cons next others => simpa [List.intercalate_cons_cons] using ih

theorem intercalate_append (separator : Char) {front back : List (List Char)}
    (before : front ≠ []) (behind : back ≠ []) :
    List.intercalate [separator] (front ++ back) =
      List.intercalate [separator] front ++ separator :: List.intercalate [separator] back := by
  induction front with
  | nil => contradiction
  | cons piece others ih =>
      cases others with
      | nil =>
          obtain ⟨next, rest, rfl⟩ := List.exists_cons_of_ne_nil behind
          simp [List.intercalate_cons_cons]
      | cons next rest =>
          have later := ih (by simp)
          simp only [List.cons_append, List.intercalate_cons_cons] at later ⊢
          rw [later]
          simp

end Text

namespace Path

structure IsName (piece : List Char) : Prop where
  nonempty : piece ≠ []
  notHere : piece ≠ ['.']
  notAbove : piece ≠ ['.', '.']

instance (piece : List Char) : Decidable (IsName piece) :=
  decidable_of_iff (piece ≠ [] ∧ piece ≠ ['.'] ∧ piece ≠ ['.', '.'])
    ⟨fun ⟨nonempty, here, above⟩ => ⟨nonempty, here, above⟩,
      fun name => ⟨name.nonempty, name.notHere, name.notAbove⟩⟩

theorem pieces_uncut (path : String) : ∀ piece ∈ pieces path, '/' ∉ piece := by
  intro piece isPiece slash
  simpa using Text.mem_splitAt_uncut isPiece '/' slash

theorem pieces_plain {path : String} (plain : '/' ∉ path.toList) : pieces path = [path.toList] := by
  apply Text.splitAt_plain
  intro c member
  rw [beq_eq_false_iff_ne]
  rintro rfl
  exact plain member

theorem pieces_slash (base leaf : String) :
    pieces (base ++ "/" ++ leaf) = pieces base ++ pieces leaf := by
  simpa [pieces] using Text.splitAt_append (· == '/') base.toList (c := '/') rfl leaf.toList

theorem pieces_join (base leaf : String) :
    ∃ front, pieces (join base leaf) = front ++ pieces leaf := by
  rw [join]
  split
  · exact ⟨[], rfl⟩
  · split
    next closed =>
        rw [Bool.or_eq_true, List.isEmpty_iff, beq_iff_eq] at closed
        rcases closed with empty | slash
        · refine ⟨[], ?_⟩
          rw [String.toList_eq_nil_iff.mp empty]
          simp
        · obtain ⟨front, split⟩ := List.getLast?_eq_some_iff.mp slash
          refine ⟨pieces (String.ofList front), ?_⟩
          rw [← pieces_slash]
          congr 1
          apply String.toList_inj.mp
          simp [split]
    next => exact ⟨pieces base, pieces_slash base leaf⟩

theorem join_eq_slash {base leaf : String} {front : List (List Char)} {name : List Char}
    (inBase : pieces base = front ++ [name]) (isName : IsName name)
    (relative : isAbsolute leaf = false) : join base leaf = base ++ "/" ++ leaf := by
  have ends : (pieces base).getLast? = some name := by simp [inBase]
  have closed : (base.toList.isEmpty || base.toList.getLast? == some '/') = false := by
    rw [Bool.or_eq_false_iff, List.isEmpty_eq_false_iff, beq_eq_false_iff_ne]
    constructor
    · intro empty
      simp only [pieces, empty, Text.splitAt, List.getLast?_singleton, Option.some.injEq] at ends
      exact isName.nonempty ends.symm
    · intro slash
      obtain ⟨before, split⟩ := List.getLast?_eq_some_iff.mp slash
      rw [pieces, split, Text.splitAt_append _ _ rfl] at ends
      simp only [Text.splitAt, List.getLast?_concat, Option.some.injEq] at ends
      exact isName.nonempty ends.symm
  rw [isAbsolute] at relative
  rw [join, relative, closed]
  rfl

theorem steps_ordered (path : String) : (steps path).Pairwise (·.1 < ·.1) := by
  have ordered : (pieces path).zipIdx.Pairwise (·.2 < ·.2) := by
    rw [← List.pairwise_map (f := Prod.snd), List.zipIdx_map_snd]
    exact List.pairwise_lt_range' 1
  rw [steps]
  refine ordered.filterMap _ ?_
  rintro ⟨piece, index⟩ ⟨other, later⟩ before first isFirst second isSecond
  dsimp only at before isFirst isSecond
  split at isFirst
  · simp at isFirst
  · split at isSecond
    · simp at isSecond
    · rw [← Option.some.inj isFirst, ← Option.some.inj isSecond]
      exact before

theorem steps_lt {path : String} {step : Nat × List Char} (member : step ∈ steps path) :
    step.1 < (pieces path).length := by
  rw [steps, List.mem_filterMap] at member
  obtain ⟨⟨piece, index⟩, there, same⟩ := member
  dsimp only at same
  split at same
  · simp at same
  · rw [← Option.some.inj same]
    simpa using List.snd_lt_of_mem_zipIdx there

theorem steps_append {path : String} {front back : List (List Char)}
    (split : pieces path = front ++ back) (names : ∀ name ∈ back, IsName name) :
    ∃ earlier, steps path =
      earlier ++ (back.zipIdx front.length).map fun entry => (entry.2, entry.1) := by
  rw [steps, split, List.zipIdx_append, List.filterMap_append, ← List.filterMap_eq_map]
  refine ⟨_, congrArg _ ?_⟩
  rw [Nat.zero_add]
  apply List.filterMap_congr
  intro entry member
  have isName := names entry.1 (List.fst_mem_of_mem_zipIdx member)
  simp [isName.nonempty, isName.notHere]

theorem fileName?_eq_some {path : String} {front : List (List Char)} {name : List Char}
    (split : pieces path = front ++ [name]) (isName : IsName name) :
    fileName? path = some name := by
  obtain ⟨earlier, same⟩ := steps_append split (by simpa using isName)
  simp [fileName?, same, isName.notHere, isName.notAbove]

theorem parent?_slash {base leaf : String} {front : List (List Char)} {name : List Char}
    (inBase : pieces base = front ++ [name]) (isName : IsName name)
    (plain : '/' ∉ leaf.toList) (isLeaf : IsName leaf.toList) :
    parent? (base ++ "/" ++ leaf) = some base := by
  have split : pieces (base ++ "/" ++ leaf) = front ++ [name, leaf.toList] := by
    rw [pieces_slash, inBase, pieces_plain plain]
    simp
  obtain ⟨earlier, same⟩ := steps_append split (by simpa using ⟨isName, isLeaf⟩)
  have kept : (pieces (base ++ "/" ++ leaf)).take (front.length + 1) = pieces base := by
    rw [pieces_slash]
    exact List.take_left' (by simp [inBase])
  have text : String.ofList (List.intercalate ['/'] (pieces base)) = base := by
    rw [pieces, Text.intercalate_splitAt, String.ofList_toList]
  simp [parent?, same, kept, text]

theorem parent?_eq_some {path parent : String} (above : parent? path = some parent) :
    parent = "" ∨ parent = "/" ∨ ∃ rest, path = parent ++ "/" ++ rest := by
  rw [parent?] at above
  split at above
  next => simp at above
  next =>
      obtain rfl := Option.some.inj above
      split
      · exact .inr (.inl rfl)
      · exact .inl rfl
  next last index piece others reversed =>
      obtain rfl := Option.some.inj above
      have all : steps path = others.reverse ++ [(index, piece), last] := by
        simpa using congrArg List.reverse reversed
      have order := steps_ordered path
      rw [all, List.pairwise_append, List.pairwise_pair] at order
      have bound : last.1 < (pieces path).length := steps_lt (by simp [all])
      have within : index < last.1 := order.2.1
      have front : (pieces path).take (index + 1) ≠ [] := by
        rw [← List.length_pos_iff, List.length_take]
        omega
      have back : (pieces path).drop (index + 1) ≠ [] := by
        rw [← List.length_pos_iff, List.length_drop]
        omega
      refine .inr (.inr
        ⟨String.ofList (List.intercalate ['/'] ((pieces path).drop (index + 1))), ?_⟩)
      apply String.toList_inj.mp
      calc path.toList
          = List.intercalate ['/'] (pieces path) := (Text.intercalate_splitAt '/' _).symm
        _ = List.intercalate ['/']
              ((pieces path).take (index + 1) ++ (pieces path).drop (index + 1)) := by
            rw [List.take_append_drop]
        _ = _ := Text.intercalate_append '/' front back
        _ = _ := by simp

end Path

end ApiContracts
