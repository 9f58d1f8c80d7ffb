import ApiContracts.Proofs.Store.Frame

/-!
Doing again what was done. Directories that were made are found again on the same way, and a file
that was written is written over at the same place. So operations that succeeded once, one after
the other, find all they need the second time and leave the tree as it is.
-/

namespace ApiContracts

theorem Place.above_isFixed {place : Place} (outset : place.isFixed = true) :
    place.above.isFixed = true := by
  simp only [isFixed, Bool.or_eq_true] at outset
  rw [above]
  split
  · rfl
  next notRoot =>
      have upwards := outset.resolve_left notRoot
      simp [isFixed, upwards]

namespace Store

theorem held?_fixed (store : Store) {place : Place} (outset : place.isFixed = true) :
    store.held? place = some .directory := by
  rw [held?, if_pos outset]

theorem not_isFixed {store : Store} {place : Place}
    (free : store.held? place ≠ some .directory) : place.isFixed = false := by
  rw [← Bool.not_eq_true]
  exact fun outset => free (store.held?_fixed outset)

inductive Standing (store : Store) : Place → Prop
  | outset {place : Place} : place.isFixed = true → Standing store place
  | inside {place : Place} : store.held? place = some .directory → Standing store place.above →
      Standing store place

theorem Standing.directory {store : Store} {place : Place} (standing : store.Standing place) :
    store.held? place = some .directory := by
  cases standing with
  | outset outset => exact store.held?_fixed outset
  | inside there _ => exact there

theorem Standing.above {store : Store} {place : Place} (standing : store.Standing place) :
    store.Standing place.above := by
  cases standing with
  | outset outset => exact .outset (Place.above_isFixed outset)
  | inside _ higher => exact higher

theorem Standing.frame {givenUp : Place → Prop} {before after : Store} {place : Place}
    (standing : before.Standing place) (frame : Frame givenUp before after) :
    after.Standing place := by
  induction standing with
  | outset outset => exact .outset outset
  | inside there _ ih => exact .inside (frame.directories _ there) ih

theorem Standing.child {store : Store} {place : Place} {name : String}
    (standing : store.Standing place)
    (there : store.held? (place ++ [name]) = some .directory) :
    store.Standing (place ++ [name]) := by
  by_cases outset : Place.isFixed (place ++ [name]) = true
  · exact .outset outset
  · have above : Place.above (place ++ [name]) = place := by
      simp only [Place.isFixed, Bool.or_eq_true, not_or] at outset
      rw [Place.above, if_neg outset.1, if_neg outset.2]
      exact List.dropLast_concat
    exact .inside there (above.symm ▸ standing)

theorem Standing.step {store : Store} {place : Place} {piece : List Char}
    (standing : store.Standing place)
    (known : step place piece = place ∨ step place piece = place.above ∨
      store.held? (step place piece) = some .directory) : store.Standing (step place piece) := by
  rcases known with stays | rises | there
  · rwa [stays]
  · rw [rises]
    exact standing.above
  · rw [Store.step] at there ⊢
    split
    next => exact standing
    next notHere =>
        split
        next => exact standing.above
        next name =>
            rw [if_neg notHere, if_neg name] at there
            exact standing.child there

theorem start_standing (store : Store) (path : String) : store.Standing (start path) := by
  rw [start]
  split <;> exact .outset rfl

theorem lookup_replacement {place : Place} (entry : Entry) {entries : List (Place × Entry)}
    (present : (entries.lookup place).isSome = true) :
    (entries.map fun old => if old.1 == place then (place, entry) else old).lookup place =
      some entry := by
  induction entries with
  | nil => simp at present
  | cons old rest ih =>
      obtain ⟨oldPlace, oldEntry⟩ := old
      by_cases same : oldPlace = place
      · simp [same]
      · have missed : (place == oldPlace) = false := beq_eq_false_iff_ne.mpr (Ne.symm same)
        rw [List.lookup_cons, missed] at present
        rw [List.map_cons, if_neg (by simpa using same), List.lookup_cons, missed]
        exact ih present

theorem held?_put_self (store : Store) {place : Place} (free : place.isFixed = false)
    (entry : Entry) : (store.put place entry).held? place = some entry := by
  rw [held?, if_neg (by simp [free]), put]
  by_cases present : (store.entries.lookup place).isSome = true
  · rw [if_pos present]
    exact lookup_replacement entry present
  · have absent : store.entries.lookup place = none :=
      Option.not_isSome_iff_eq_none.mp present
    rw [if_neg present]
    simp [List.lookup_append, absent]

theorem makeFrom_walk {store after : Store} {created : Bool} {place : Place}
    {pieces : List (List Char)} (standing : store.Standing place)
    (made : store.makeFrom created place pieces = (after, .ok ())) :
    ∃ final, after.walk place pieces = .ok final ∧ after.held? final = some .directory := by
  induction pieces generalizing store created place with
  | nil =>
      obtain ⟨rfl, _⟩ := Prod.mk.inj made
      exact ⟨place, rfl, standing.directory⟩
  | cons piece rest ih =>
      have frame := makeFrom_frame store created place (piece :: rest)
      rw [made] at frame
      have here := frame.directories place standing.directory
      simp only [walk_cons_ok_iff, here, true_and]
      rcases store.makeFrom_cons_cases created place piece rest with
        ⟨known, onwards⟩ | ⟨free, onwards⟩ | ⟨content, _, stopped⟩
      · exact ih (standing.step known) (onwards.symm.trans made)
      · have noDirectory : store.held? (step place piece) ≠ some .directory := by simp [free]
        have there := store.held?_put_self (not_isFixed noDirectory) .directory
        have still := standing.frame (put_new_frame free .directory)
        exact ih (still.step (.inr (.inr there))) (onwards.symm.trans made)
      · simp [stopped] at made

/-- The later tree has a directory wherever the earlier one has one, and a file wherever that has
a file, with whatever content. -/
structure KeepsShape (earlier later : Store) : Prop where
  directories : ∀ place, earlier.held? place = some .directory →
    later.held? place = some .directory
  files : ∀ place content, earlier.held? place = some (.file content) →
    ∃ other, later.held? place = some (.file other)

theorem KeepsShape.refl (store : Store) : store.KeepsShape store :=
  ⟨fun _ there => there, fun _ content there => ⟨content, there⟩⟩

theorem KeepsShape.trans {first second third : Store} (early : first.KeepsShape second)
    (late : second.KeepsShape third) : first.KeepsShape third where
  directories := fun place there => late.directories place (early.directories place there)
  files := fun place content there => by
    obtain ⟨other, between⟩ := early.files place content there
    exact late.files place other between

theorem KeepsShape.frame {earlier later : Store} (keeps : earlier.KeepsShape later) :
    Frame (fun _ => True) earlier later :=
  ⟨keeps.directories, fun _ _ kept => absurd trivial kept⟩

theorem Frame.keepsShape {before after : Store} (frame : Frame (fun _ => False) before after) :
    before.KeepsShape after :=
  ⟨frame.directories, fun place content there => ⟨content, frame.files place content id there⟩⟩

theorem put_file_keepsShape {store : Store} {place : Place}
    (free : store.held? place ≠ some .directory) (content : ByteArray) :
    store.KeepsShape (store.put place (.file content)) := by
  have frame := put_frame free (.file content)
  refine ⟨frame.directories, fun other old there => ?_⟩
  by_cases same : other = place
  · subst same
    exact ⟨content, store.held?_put_self (not_isFixed free) _⟩
  · exact ⟨old, frame.files other old same there⟩

theorem makeParent_again {store made later : Store} {path : String}
    (ready : store.makeParent path = (made, .ok ())) (keeps : made.KeepsShape later) :
    later.makeParent path = (later, .ok ()) := by
  rw [makeParent] at ready ⊢
  split at ready
  next parent isParent =>
      split at ready
      next empty => rw [if_pos empty]
      next nonempty =>
          obtain ⟨final, walked, there⟩ := makeFrom_walk (start_standing store parent) ready
          rw [if_neg nonempty]
          exact makeFrom_of_walk (walk_frame keeps.frame walked) (keeps.directories final there)
            false
  next => rfl

/-- `after` is what came of `before`, and `again` what the same does later on. It changes files at
`written` only, and later, on a tree of the same shape or more, it makes these what they became
and leaves all else. -/
structure Repeats (written : Place → Prop) (before after : Store) (again : Store → Store) :
    Prop where
  shape : before.KeepsShape after
  frame : Frame written before after
  files : ∀ place, written place → ∃ content, after.held? place = some (.file content)
  rewrites : ∀ later, after.KeepsShape later → ∀ place, written place →
    (again later).held? place = after.held? place
  leaves : ∀ later, after.KeepsShape later → ∀ place, ¬written place →
    (again later).held? place = later.held? place

theorem Repeats.refl (store : Store) : Repeats (fun _ => False) store store id where
  shape := .refl store
  frame := .refl _ store
  files := nofun
  rewrites := nofun
  leaves := fun _ _ _ _ => rfl

theorem Repeats.keepsShape {written : Place → Prop} {before after later : Store}
    {again : Store → Store} (repeats : Repeats written before after again)
    (keeps : after.KeepsShape later) : later.KeepsShape (again later) := by
  have fileAt (place : Place) (isWritten : written place) :
      ∃ first second, later.held? place = some (.file first) ∧
        (again later).held? place = some (.file second) := by
    obtain ⟨content, there⟩ := repeats.files place isWritten
    obtain ⟨other, still⟩ := keeps.files place content there
    exact ⟨other, content, still, (repeats.rewrites later keeps place isWritten).trans there⟩
  constructor
  · intro place there
    by_cases isWritten : written place
    · obtain ⟨first, _, isFile, _⟩ := fileAt place isWritten
      simp [isFile] at there
    · rw [repeats.leaves later keeps place isWritten]
      exact there
  · intro place content there
    by_cases isWritten : written place
    · obtain ⟨_, second, _, isFile⟩ := fileAt place isWritten
      exact ⟨second, isFile⟩
    · rw [repeats.leaves later keeps place isWritten]
      exact ⟨content, there⟩

theorem Repeats.trans {early late : Place → Prop} {first second third : Store}
    {again onwards : Store → Store} (start : Repeats early first second again)
    (finish : Repeats late second third onwards) :
    Repeats (fun place => early place ∨ late place) first third (onwards ∘ again) := by
  have shape (later : Store) (keeps : third.KeepsShape later) :
      second.KeepsShape later ∧ third.KeepsShape (again later) :=
    have before := finish.shape.trans keeps
    ⟨before, keeps.trans (start.keepsShape before)⟩
  have untouched (place : Place) (content : ByteArray) (isLate : ¬late place)
      (there : second.held? place = some (.file content)) :
      third.held? place = some (.file content) :=
    finish.frame.files place content isLate there
  constructor
  · exact start.shape.trans finish.shape
  · exact (start.frame.mono fun _ => .inl).trans (finish.frame.mono fun _ => .inr)
  · intro place isWritten
    by_cases isLate : late place
    · exact finish.files place isLate
    · obtain ⟨content, there⟩ := start.files place (isWritten.resolve_right isLate)
      exact ⟨content, untouched place content isLate there⟩
  · intro later keeps place isWritten
    obtain ⟨before, after⟩ := shape later keeps
    by_cases isLate : late place
    · exact finish.rewrites (again later) after place isLate
    · have isEarly := isWritten.resolve_right isLate
      obtain ⟨content, there⟩ := start.files place isEarly
      rw [Function.comp_apply, finish.leaves (again later) after place isLate,
        start.rewrites later before place isEarly, there, untouched place content isLate there]
  · intro later keeps place isOther
    obtain ⟨before, after⟩ := shape later keeps
    obtain ⟨notEarly, notLate⟩ := not_or.mp isOther
    rw [Function.comp_apply, finish.leaves (again later) after place notLate,
      start.leaves later before place notEarly]

theorem Repeats.idempotent {written : Place → Prop} {before after : Store}
    {again : Store → Store} (repeats : Repeats written before after again) (place : Place) :
    (again after).held? place = after.held? place := by
  by_cases isWritten : written place
  · exact repeats.rewrites after (.refl after) place isWritten
  · exact repeats.leaves after (.refl after) place isWritten

end Store

end ApiContracts
