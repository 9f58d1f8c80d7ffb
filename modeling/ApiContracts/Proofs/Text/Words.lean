import ApiContracts.Proofs.Text.Case
import ApiContracts.Text.Words

/-!
What becomes of the characters of a text that is cut into words and written again. Snake and
Pascal case bring no character below the letters into it, and a capitalized ASCII word at its end
ends the snake case too, in lower case.
-/

namespace ApiContracts.Text

theorem clustersAfter_flatten (tail : ClusterTail) (text : List Char) :
    (clustersAfter tail text).1 ++ (clustersAfter tail text).2.flatten = text := by
  induction text generalizing tail with
  | nil => rfl
  | cons c rest ih =>
      rw [clustersAfter]
      split
      · simp [ih]
      · simp [ih]

theorem clusters_flatten (text : List Char) : (clusters text).flatten = text := by
  cases text with
  | nil => rfl
  | cons c rest => simp [clusters, clustersAfter_flatten]

theorem mem_splitWords {c : Char} {pieces : List Cluster} {word : List Char}
    (isWord : word ∈ splitWords pieces) (member : c ∈ word) : c ∈ pieces.flatten := by
  induction pieces generalizing word with
  | nil =>
      obtain rfl := List.mem_singleton.mp isWord
      simp at member
  | cons piece rest ih =>
      rw [List.flatten_cons, List.mem_append]
      rw [splitWords] at isWord
      split at isWord
      · rcases List.mem_cons.mp isWord with rfl | later
        · simp at member
        · exact .inr (ih later member)
      · split at isWord
        · rcases List.mem_cons.mp isWord with rfl | later
          · exact .inl member
          · exact .inr (ih later member)
        · split at isWord
          next =>
              obtain rfl := List.mem_singleton.mp isWord
              exact .inl member
          next first others split =>
              rcases List.mem_cons.mp isWord with rfl | later
              · rcases List.mem_append.mp member with inPiece | inFirst
                · exact .inl inPiece
                · exact .inr (ih (by simp [split]) inFirst)
              · exact .inr (ih (by simp [split, later]) member)

theorem mem_words {c : Char} {text word : List Char} (isWord : word ∈ words text)
    (member : c ∈ word) : c ∈ text := by
  rw [words] at isWord
  split at isWord
  · simp at isWord
  · rw [← clusters_flatten text]
    exact mem_splitWords isWord member

theorem flatten_splitWords (pieces : List Cluster) :
    (splitWords pieces).flatten = (pieces.filter (!·.isSeparator)).flatten := by
  induction pieces with
  | nil => rfl
  | cons piece rest ih =>
      rw [splitWords, List.filter_cons]
      cases separator : piece.isSeparator with
      | true => simpa using ih
      | false =>
          simp only [Bool.false_eq_true, ↓reduceIte, Bool.not_false, List.flatten_cons, ← ih]
          split
          · rw [List.flatten_cons]
          · split
            next split => simp [split]
            next split => simp [split]

theorem flatten_words (text : List Char) :
    (words text).flatten = ((clusters text).filter (!·.isSeparator)).flatten := by
  rw [words]
  split
  next empty => simp [empty]
  next => exact flatten_splitWords _

theorem mem_intercalate {c : Char} {separator : List Char} {pieces : List (List Char)}
    (member : c ∈ List.intercalate separator pieces) :
    c ∈ separator ∨ ∃ piece ∈ pieces, c ∈ piece := by
  induction pieces with
  | nil => simp at member
  | cons piece rest ih =>
      cases rest with
      | nil => exact .inr ⟨piece, by simp, by simpa using member⟩
      | cons next others =>
          rw [List.intercalate_cons_cons, List.mem_append, List.mem_append] at member
          rcases member with (here | between) | later
          · exact .inr ⟨piece, by simp, here⟩
          · exact .inl between
          · exact (ih later).imp_right fun ⟨other, isOther, inOther⟩ =>
              ⟨other, List.mem_cons_of_mem _ isOther, inOther⟩

theorem mem_intercalate_of_mem {c : Char} (separator : List Char) {pieces : List (List Char)}
    {piece : List Char} (isPiece : piece ∈ pieces) (member : c ∈ piece) :
    c ∈ List.intercalate separator pieces := by
  induction pieces with
  | nil => simp at isPiece
  | cons first rest ih =>
      cases rest with
      | nil =>
          obtain rfl := List.mem_singleton.mp isPiece
          simpa using member
      | cons next others =>
          rw [List.intercalate_cons_cons, List.mem_append, List.mem_append]
          rcases List.mem_cons.mp isPiece with rfl | later
          · exact .inl (.inl member)
          · exact .inr (ih later)

theorem snake_low {c : Char} (low : IsLow c) {text : List Char} (member : c ∈ snake text) :
    c ∈ text := by
  rcases mem_intercalate member with separator | ⟨piece, isPiece, inPiece⟩
  · rw [List.mem_singleton] at separator
    subst separator
    exact absurd low (by decide)
  · obtain ⟨word, isWord, rfl⟩ := List.mem_map.mp isPiece
    exact mem_words isWord (lower_low low inPiece)

theorem snake_low_iff {c : Char} (low : IsLow c) (kept : Cluster.isSeparator [c] = false)
    (text : List Char) : c ∈ snake text ↔ c ∈ text := by
  refine ⟨snake_low low, ?_⟩
  intro member
  rw [← clusters_flatten text, List.mem_flatten] at member
  obtain ⟨cluster, isCluster, inCluster⟩ := member
  have stays : Cluster.isSeparator cluster = false := by
    simp only [Cluster.isSeparator, Bool.or_eq_false_iff, beq_eq_false_iff_ne] at kept ⊢
    refine ⟨⟨?_, ?_⟩, ?_⟩ <;> rintro rfl <;> simp_all
  have inWords : c ∈ (words text).flatten := by
    rw [flatten_words, List.mem_flatten]
    exact ⟨cluster, by simp [isCluster, stays], inCluster⟩
  obtain ⟨word, isWord, inWord⟩ := List.mem_flatten.mp inWords
  exact mem_intercalate_of_mem _ (List.mem_map_of_mem isWord) (mem_lower_of_low low inWord)

theorem capitalize_low {c : Char} (low : IsLow c) {word : List Char}
    (member : c ∈ capitalize word) : c ∈ word := by
  cases word with
  | nil => simp [capitalize] at member
  | cons first rest =>
      rw [capitalize, List.mem_append] at member
      rcases member with image | later
      · rw [upperChar_low low image]
        exact List.mem_cons_self
      · exact List.mem_cons_of_mem _ (lower_low low later)

theorem pascal_low {c : Char} (low : IsLow c) {text : List Char} (member : c ∈ pascal text) :
    c ∈ text := by
  rw [pascal, List.mem_flatten] at member
  obtain ⟨piece, isPiece, inPiece⟩ := member
  obtain ⟨word, isWord, rfl⟩ := List.mem_map.mp isPiece
  exact mem_words isWord (capitalize_low low inPiece)

end ApiContracts.Text
