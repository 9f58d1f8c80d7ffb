import ApiContracts.Proofs.Path.Pieces

/-!
The components of paths. Where a relative path is joined to a base, its components follow those of
the base, without the empty pieces and the single dots among them.
-/

namespace ApiContracts.Path

/-- The names and the steps upwards of a path; a dot counts where the path starts with it. -/
def components (path : String) : List (List Char) := (steps path).map Prod.snd

/-- The pieces that are a step wherever they stand behind another one. -/
def moves (pieces : List (List Char)) : List (List Char) :=
  pieces.filter fun piece => !(piece.isEmpty || piece == ['.'])

theorem moves_of_isName {piece : List Char} (isName : IsName piece) : moves [piece] = [piece] := by
  simp [moves, isName.nonempty, isName.notHere]

theorem moves_behind (pieces : List (List Char)) {index : Nat} (behind : 0 < index) :
    ((pieces.zipIdx index).filterMap fun (piece, index) =>
        if piece.isEmpty || (piece == ['.'] && index != 0) then none
        else some (index, piece)).map Prod.snd = moves pieces := by
  induction pieces generalizing index with
  | nil => rfl
  | cons piece rest ih =>
      have moved : (index != 0) = true := by simpa using Nat.ne_of_gt behind
      rw [List.zipIdx_cons, List.filterMap_cons, moves, List.filter_cons]
      simp only [moved, Bool.and_true]
      cases piece.isEmpty || piece == ['.'] with
      | true => exact ih (Nat.lt_succ_of_lt behind)
      | false => exact congrArg _ (ih (Nat.lt_succ_of_lt behind))

theorem components_of_pieces {path : String} {first : List Char} {rest : List (List Char)}
    (split : pieces path = first :: rest) :
    components path = (if first.isEmpty then [] else [first]) ++ moves rest := by
  have later := moves_behind rest (Nat.zero_lt_one)
  rw [components, steps, split, List.zipIdx_cons, List.filterMap_cons, ← later]
  cases first with
  | nil => rfl
  | cons c others => simp

theorem components_slash (base leaf : String) :
    components (base ++ "/" ++ leaf) = components base ++ moves (pieces leaf) := by
  obtain ⟨first, rest, split⟩ := List.exists_cons_of_ne_nil (Text.splitAt_ne_nil _ base.toList)
  have joined : pieces (base ++ "/" ++ leaf) = first :: (rest ++ pieces leaf) := by
    rw [pieces_slash]
    exact congrArg (· ++ pieces leaf) split
  rw [components_of_pieces joined, components_of_pieces split, moves, List.filter_append,
    List.append_assoc]
  rfl

theorem components_join {base leaf : String} (relative : isAbsolute leaf = false)
    (starts : base = "" → (pieces leaf).head? ≠ some ['.']) :
    components (join base leaf) = components base ++ moves (pieces leaf) := by
  rw [isAbsolute] at relative
  rw [join, relative]
  simp only [Bool.false_eq_true, ↓reduceIte]
  split
  next closed =>
      rw [Bool.or_eq_true, List.isEmpty_iff, beq_iff_eq] at closed
      -- No slash goes in between: the base is empty, or it ends in one.
      rcases closed with empty | slash
      · obtain rfl := String.toList_eq_nil_iff.mp empty
        obtain ⟨first, rest, split⟩ :=
          List.exists_cons_of_ne_nil (Text.splitAt_ne_nil _ leaf.toList)
        have whole : pieces leaf = first :: rest := split
        have notHere : first ≠ ['.'] := by simpa [whole] using starts rfl
        rw [String.empty_append, components_of_pieces whole, whole, moves, moves, List.filter_cons]
        cases first <;> simp_all [components, steps, pieces, Text.splitAt]
      · obtain ⟨front, split⟩ := List.getLast?_eq_some_iff.mp slash
        obtain rfl : base = String.ofList front ++ "/" ++ "" := by
          apply String.toList_inj.mp
          simp [split]
        rw [String.append_empty, components_slash]
        have again := components_slash (String.ofList front) ""
        rw [String.append_empty] at again
        rw [again]
        simp [pieces, Text.splitAt, moves]
  next => exact components_slash base leaf

theorem steps_getElem? {path : String} {step : Nat × List Char} (member : step ∈ steps path)
    (behind : 0 < step.1) :
    (pieces path)[step.1]? = some step.2 ∧ step.2 ≠ [] ∧ step.2 ≠ ['.'] := by
  rw [steps, List.mem_filterMap] at member
  obtain ⟨⟨piece, index⟩, there, same⟩ := member
  dsimp only at same
  split at same
  next => simp at same
  next isStep =>
      obtain rfl := Option.some.inj same
      simp only [Bool.or_eq_true, List.isEmpty_iff, Bool.and_eq_true, beq_iff_eq, bne_iff_ne,
        not_or, not_and] at isStep
      refine ⟨List.mem_zipIdx_iff_getElem?.mp there, isStep.1, ?_⟩
      intro here
      have last := isStep.2 here
      simp only at behind
      omega

theorem parent?_left {path parent : String} (above : parent? path = some parent)
    (named : parent ≠ "") (notRoot : parent ≠ "/") :
    ∃ rest, pieces path = pieces parent ++ rest ∧ moves rest ≠ [] := by
  rw [parent?] at above
  split at above
  next => simp at above
  next =>
      have same := Option.some.inj above
      split at same
      · exact absurd same.symm notRoot
      · exact absurd same.symm named
  next last index piece others reversed =>
      obtain rfl := Option.some.inj above
      have all : steps path = others.reverse ++ [(index, piece), last] := by
        simpa using congrArg List.reverse reversed
      have order := steps_ordered path
      rw [all, List.pairwise_append, List.pairwise_pair] at order
      have within : index < last.1 := order.2.1
      have bound : last.1 < (pieces path).length := steps_lt (by simp [all])
      refine ⟨(pieces path).drop (index + 1), ?_, ?_⟩
      · have front : (pieces path).take (index + 1) ≠ [] := by
          rw [← List.length_pos_iff, List.length_take]
          omega
        have uncut : ∀ piece ∈ (pieces path).take (index + 1), '/' ∉ piece :=
          fun piece member => pieces_uncut path piece (List.mem_of_mem_take member)
        have cut : pieces (String.ofList (List.intercalate ['/'] ((pieces path).take (index + 1)))) =
            (pieces path).take (index + 1) := by
          rw [pieces, String.toList_ofList]
          exact Text.splitAt_intercalate front uncut
        rw [cut, List.take_append_drop]
      · obtain ⟨there, isMove⟩ := steps_getElem? (by simp [all] : last ∈ steps path) (by omega)
        have behind : last.2 ∈ (pieces path).drop (index + 1) := by
          apply List.mem_of_getElem? (i := last.1 - (index + 1))
          rw [List.getElem?_drop, Nat.add_sub_of_le within, there]
        intro noMoves
        have kept : last.2 ∈ moves ((pieces path).drop (index + 1)) := by
          simpa [moves, isMove] using behind
        simp [noMoves] at kept

end ApiContracts.Path
