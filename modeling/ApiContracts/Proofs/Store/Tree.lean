import ApiContracts.Proofs.Path.Components
import ApiContracts.Proofs.Store.Outcome
import Mathlib.Data.List.Induction

/-!
Places that lie over others, and trees in which nothing hangs in the air. In such a tree a path that
goes upwards only from directories that are there leads to its place as soon as that is taken, and
whatever is made on its way comes to lie over its place.
-/

namespace ApiContracts

namespace Place

inductive Over : Place → Place → Prop
  | above (place : Place) : Over place.above place
  | further {higher place : Place} : Over higher place.above → Over higher place

structure Apart (first second : Place) : Prop where
  different : first ≠ second
  notOver : ¬Over first second
  notUnder : ¬Over second first

theorem Apart.symm {first second : Place} (apart : Apart first second) : Apart second first :=
  ⟨apart.different.symm, apart.notUnder, apart.notOver⟩

theorem above_eq_dropLast {place : Place} (moving : place.isFixed = false) :
    place.above = place.dropLast := by
  simp only [isFixed, Bool.or_eq_false_iff] at moving
  simp [above, moving]

theorem above_snoc {place : Place} {name : String} (named : name ≠ "..") (notRoot : name ≠ "/") :
    above (place ++ [name]) = place := by
  rw [above_eq_dropLast, List.dropLast_concat]
  rw [isFixed, Bool.or_eq_false_iff]
  constructor
  · rw [beq_eq_false_iff_ne]
    intro same
    have last := congrArg List.getLast? same
    rw [List.getLast?_concat] at last
    exact notRoot (Option.some.inj last)
  · simp [named]

theorem Over.isFixed {higher lower : Place} (isOver : Over higher lower)
    (outset : lower.isFixed = true) : higher.isFixed = true := by
  induction isOver with
  | above place => exact above_isFixed outset
  | further _ ih => exact ih (above_isFixed outset)

theorem Over.begins {higher lower : Place} (isOver : Over higher lower)
    (moving : higher.isFixed = false) : higher <+: lower ∧ higher.length < lower.length := by
  induction isOver with
  | above place =>
      have below : place.isFixed = false := by
        rw [← Bool.not_eq_true] at moving ⊢
        exact fun outset => moving (above_isFixed outset)
      rw [above_eq_dropLast below]
      have nonempty : place ≠ [] := by
        rintro rfl
        simp [Place.isFixed] at below
      have positive := List.length_pos_iff.mpr nonempty
      refine ⟨List.dropLast_prefix place, ?_⟩
      rw [List.length_dropLast]
      omega
  | @further higher place isOver ih =>
      obtain ⟨begins, shorter⟩ := ih moving
      have below : place.isFixed = false := by
        rw [← Bool.not_eq_true] at moving ⊢
        exact fun outset => moving (isOver.isFixed (above_isFixed outset))
      rw [above_eq_dropLast below] at begins shorter
      refine ⟨begins.trans (List.dropLast_prefix place), ?_⟩
      rw [List.length_dropLast] at shorter
      omega

theorem not_over_self {place : Place} (moving : place.isFixed = false) : ¬Over place place :=
  fun isOver => Nat.lt_irrefl _ (isOver.begins moving).2

theorem apart_of_begins {first second : Place} (moving : first.isFixed = false)
    (otherMoving : second.isFixed = false) (notOver : ¬first <+: second)
    (notUnder : ¬second <+: first) : Apart first second := by
  constructor
  · rintro rfl
    exact notOver List.prefix_rfl
  · exact fun isOver => notOver (isOver.begins moving).1
  · exact fun isUnder => notUnder (isUnder.begins otherMoving).1

theorem over_append (place : Place) {names : List String} (nonempty : names ≠ [])
    (plain : ∀ name ∈ names, name ≠ ".." ∧ name ≠ "/") : Over place (place ++ names) := by
  induction names using List.reverseRecOn with
  | nil => contradiction
  | append_singleton front last ih =>
      obtain ⟨before, atEnd⟩ := List.forall_mem_append.mp plain
      obtain ⟨named, notRoot⟩ := atEnd last (List.mem_singleton_self last)
      have lifted : above (place ++ (front ++ [last])) = place ++ front := by
        rw [← List.append_assoc]
        exact above_snoc named notRoot
      by_cases none : front = []
      · subst none
        have isOver := Over.above (place ++ ([] ++ [last]))
        rwa [lifted, List.append_nil] at isOver
      · apply Over.further
        rw [lifted]
        exact ih none before

end Place

namespace Store

def destination (path : String) : Place := (Path.pieces path).foldl step (start path)

theorem walk_eq_ok {store : Store} {place final : Place} {pieces : List (List Char)}
    (walked : store.walk place pieces = .ok final) : pieces.foldl step place = final := by
  induction pieces generalizing place with
  | nil => exact Except.ok.inj walked
  | cons piece rest ih => exact ih ((walk_cons_ok_iff _ _ _ _ _).mp walked).2

theorem resolve_eq_ok {store : Store} {path : String} {place : Place}
    (resolved : store.resolve path = .ok place) : destination path = place := by
  rw [resolve] at resolved
  split at resolved
  next => simp at resolved
  next => exact walk_eq_ok resolved

def IsTree (store : Store) : Prop :=
  ∀ place, store.held? place ≠ none → store.held? place.above = some .directory

instance (store : Store) : Decidable store.IsTree := by
  refine decidable_of_iff
    (∀ entry ∈ store.entries, store.held? entry.1.above = some .directory) ?_
  constructor
  · intro all place held
    by_cases outset : place.isFixed = true
    · exact store.held?_fixed (Place.above_isFixed outset)
    · rw [held?, if_neg outset, ← Option.isSome_iff_ne_none, List.lookup_isSome_iff] at held
      obtain ⟨entry, member, same⟩ := held
      rw [beq_iff_eq.mp same]
      exact all entry member
  · intro tree entry member
    apply tree
    by_cases outset : entry.1.isFixed = true
    · simp [store.held?_fixed outset]
    · rw [held?, if_neg outset, ← Option.isSome_iff_ne_none, List.lookup_isSome_iff]
      exact ⟨entry, member, beq_self_eq_true entry.1⟩

theorem IsTree.directory_over {store : Store} (tree : store.IsTree) {higher lower : Place}
    (isOver : Place.Over higher lower) (held : store.held? lower ≠ none) :
    store.held? higher = some .directory := by
  induction isOver with
  | above place => exact tree place held
  | further _ ih =>
      apply ih
      simp [tree _ held]

/-- The path goes upwards only from directories that are there. -/
def Climbs (store : Store) (path : String) : Prop :=
  ∀ front back, Path.pieces path = front ++ ['.', '.'] :: back →
    store.held? (front.foldl step (start path)) = some .directory

instance (store : Store) (path : String) : Decidable (store.Climbs path) := by
  refine decidable_of_iff (∀ index < (Path.pieces path).length,
    (Path.pieces path)[index]? = some ['.', '.'] →
      store.held? (((Path.pieces path).take index).foldl step (start path)) =
        some .directory) ?_
  constructor
  · intro all front back split
    have there := all front.length (by simp [split]) (by simp [split])
    rwa [split, List.take_left] at there
  · intro climbs index bound up
    apply climbs _ ((Path.pieces path).drop (index + 1))
    rw [List.getElem?_eq_getElem bound, Option.some.injEq] at up
    rw [← up, List.getElem_cons_drop, List.take_append_drop]

theorem climbs_of_level (store : Store) {path : String}
    (level : ['.', '.'] ∉ Path.pieces path) : store.Climbs path := by
  intro front back split
  simp [split] at level

theorem foldl_step_level {pieces : List (List Char)} (level : ['.', '.'] ∉ pieces)
    (place : Place) :
    pieces.foldl step place = place ++ (Path.moves pieces).map String.ofList := by
  induction pieces generalizing place with
  | nil => simp [Path.moves]
  | cons piece rest ih =>
      simp only [List.mem_cons, not_or] at level
      rw [List.foldl_cons, ih level.2, step, Path.moves, Path.moves, List.filter_cons]
      by_cases stays : (piece.isEmpty || piece == ['.']) = true
      · simp [stays]
      · have moves : piece ≠ ['.', '.'] := fun up => level.1 up.symm
        simp [stays, moves]

theorem over_foldl_step {pieces : List (List Char)} (uncut : ∀ piece ∈ pieces, '/' ∉ piece)
    (level : ['.', '.'] ∉ pieces) (moving : Path.moves pieces ≠ []) (place : Place) :
    Place.Over place (pieces.foldl step place) := by
  rw [foldl_step_level level]
  apply Place.over_append
  · simpa using moving
  · intro name member
    obtain ⟨piece, kept, rfl⟩ := List.mem_map.mp member
    have isPiece := List.mem_of_mem_filter kept
    constructor
    · intro up
      have same : piece = ['.', '.'] := by simpa using congrArg String.toList up
      exact level (same ▸ isPiece)
    · intro root
      have same : piece = ['/'] := by simpa using congrArg String.toList root
      exact uncut piece isPiece (by simp [same])

def OnWay (path : String) (place : Place) : Prop :=
  ∃ front back, Path.pieces path = front ++ back ∧ Path.moves back ≠ [] ∧
    front.foldl step (start path) = place

theorem Climbs.over_destination {store : Store} {path : String} {place : Place}
    (climbs : store.Climbs path) (tree : store.IsTree) (onWay : OnWay path place)
    (free : store.held? place = none) : Place.Over place (destination path) := by
  obtain ⟨front, back, split, moving, rfl⟩ := onWay
  have uncut : ∀ piece ∈ back, '/' ∉ piece := by
    intro piece member
    exact Path.pieces_uncut path piece (by simp [split, member])
  rw [destination, split, List.foldl_append]
  apply over_foldl_step uncut _ moving
  -- Upwards from behind a place means that a directory is there, and then one is at the place.
  intro up
  obtain ⟨before, behind, rfl, level⟩ := List.eq_append_cons_of_mem up
  have there := climbs (front ++ before) behind (by simp [split])
  rw [List.foldl_append] at there
  by_cases still : Path.moves before = []
  · rw [foldl_step_level level, still, List.map_nil, List.append_nil, free] at there
    simp at there
  · have isOver := over_foldl_step (List.forall_mem_append.mp uncut).1 level still
      (front.foldl step (start path))
    have directory := tree.directory_over isOver (by simp [there])
    simp [free] at directory

theorem IsTree.walk {store later : Store} {place final : Place} {pieces : List (List Char)}
    (tree : store.IsTree) (keeps : store.KeepsShape later)
    (uncut : ∀ piece ∈ pieces, '/' ∉ piece)
    (climbs : ∀ front back, pieces = front ++ ['.', '.'] :: back →
      store.held? (front.foldl step place) = some .directory)
    (walked : later.walk place pieces = .ok final) (held : store.held? final ≠ none) :
    store.walk place pieces = .ok final := by
  -- On the pieces from behind: what is over a place that is taken is a directory.
  induction pieces using List.reverseRecOn generalizing final with
  | nil => exact walked
  | append_singleton front last ih =>
      rw [walk_append_ok_iff] at walked ⊢
      obtain ⟨reached, before, behind⟩ := walked
      obtain ⟨laterThere, same⟩ := (walk_cons_ok_iff _ _ _ _ _).mp behind
      obtain rfl := Except.ok.inj same
      have there : store.held? reached = some .directory := by
        rw [step] at held
        split at held
        next =>
            -- The place itself, which stays a file if it is one.
            cases taken : store.held? reached with
            | none => exact absurd taken held
            | some entry =>
                cases entry with
                | directory => rfl
                | file content =>
                    obtain ⟨other, still⟩ := keeps.files reached content taken
                    simp [laterThere] at still
        next notHere =>
            split at held
            next up =>
                obtain rfl := beq_iff_eq.mp up
                rw [← walk_eq_ok before]
                exact climbs front [] rfl
            next notUp =>
                have lifted : Place.above (reached ++ [String.ofList last]) = reached := by
                  apply Place.above_snoc
                  · intro same
                    have isUp : last = ['.', '.'] := by simpa using congrArg String.toList same
                    simp [isUp] at notUp
                  · intro same
                    have root : last = ['/'] := by simpa using congrArg String.toList same
                    exact uncut last (by simp) (by simp [root])
                rw [← lifted]
                exact tree _ held
      refine ⟨reached, ?_, (walk_cons_ok_iff _ _ _ _ _).mpr ⟨there, rfl⟩⟩
      apply ih
      · exact (List.forall_mem_append.mp uncut).1
      · intro left right split
        exact climbs left (right ++ [last]) (by simp [split])
      · exact before
      · simp [there]

theorem Climbs.resolve {store later : Store} {path : String} {place : Place}
    (climbs : store.Climbs path) (tree : store.IsTree) (keeps : store.KeepsShape later)
    (resolved : later.resolve path = .ok place) (held : store.held? place ≠ none) :
    store.resolve path = .ok place := by
  rw [Store.resolve] at resolved ⊢
  split at resolved
  next => simp at resolved
  next nonempty =>
      rw [if_neg nonempty]
      exact tree.walk keeps (Path.pieces_uncut path) climbs resolved held

end Store

end ApiContracts
