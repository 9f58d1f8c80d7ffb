import ApiContracts.Proofs.Path.Pieces
import ApiContracts.Store

/-!
What operations on a tree leave alone. Directories are only ever added, files change only at the
place that a write resolves to, and so a path that led to something leads to the same place
afterwards.
-/

namespace ApiContracts.Store

/-- A change of a tree that keeps all directories, and all files but those at places given up. -/
structure Frame (givenUp : Place → Prop) (before after : Store) : Prop where
  directories : ∀ place, before.held? place = some .directory →
    after.held? place = some .directory
  files : ∀ place content, ¬givenUp place → before.held? place = some (.file content) →
    after.held? place = some (.file content)

theorem Frame.refl (givenUp : Place → Prop) (store : Store) : Frame givenUp store store :=
  ⟨fun _ there => there, fun _ _ _ there => there⟩

theorem Frame.trans {givenUp : Place → Prop} {before between after : Store}
    (first : Frame givenUp before between) (second : Frame givenUp between after) :
    Frame givenUp before after where
  directories := fun place there => second.directories place (first.directories place there)
  files := fun place content kept there =>
    second.files place content kept (first.files place content kept there)

theorem Frame.mono {fewer more : Place → Prop} {before after : Store}
    (frame : Frame fewer before after) (included : ∀ place, fewer place → more place) :
    Frame more before after where
  directories := frame.directories
  files := fun place content kept =>
    frame.files place content fun given => kept (included place given)

theorem lookup_replaced {place other : Place} (different : other ≠ place) (entry : Entry)
    (entries : List (Place × Entry)) :
    (entries.map fun old => if old.1 == place then (place, entry) else old).lookup other =
      entries.lookup other := by
  induction entries with
  | nil => rfl
  | cons old rest ih =>
      obtain ⟨oldPlace, oldEntry⟩ := old
      rw [List.map_cons]
      split
      next same =>
          obtain rfl := beq_iff_eq.mp same
          have missed : (other == oldPlace) = false := beq_eq_false_iff_ne.mpr different
          rw [List.lookup_cons, List.lookup_cons, ih]
          simp [missed]
      next => rw [List.lookup_cons, List.lookup_cons, ih]

theorem held?_put {place other : Place} (different : other ≠ place) (store : Store)
    (entry : Entry) : (store.put place entry).held? other = store.held? other := by
  rw [held?, held?]
  congr 1
  rw [put]
  split
  · exact lookup_replaced different entry store.entries
  · have missed : (other == place) = false := beq_eq_false_iff_ne.mpr different
    simp [List.lookup_append, List.lookup_cons, missed]

theorem put_frame {store : Store} {place : Place} (free : store.held? place ≠ some .directory)
    (entry : Entry) : Frame (· = place) store (store.put place entry) := by
  constructor
  · intro other there
    rw [held?_put _ store entry]
    · exact there
    · rintro rfl
      exact free there
  · intro other content different there
    rw [held?_put different store entry]
    exact there

theorem put_new_frame {store : Store} {place : Place} (free : store.held? place = none)
    (entry : Entry) : Frame (fun _ => False) store (store.put place entry) := by
  have notDirectory : store.held? place ≠ some .directory := by simp [free]
  have frame := put_frame notDirectory entry
  refine ⟨frame.directories, fun other content _ there => frame.files other content ?_ there⟩
  rintro rfl
  simp [free] at there

def step (place : Place) (piece : List Char) : Place :=
  if piece.isEmpty || piece == ['.'] then place
  else if piece == ['.', '.'] then place.above
  else place ++ [String.ofList piece]

theorem step_name {name : List Char} (isName : Path.IsName name) (place : Place) :
    step place name = place ++ [String.ofList name] := by
  simp [step, isName.nonempty, isName.notHere, isName.notAbove]

theorem makeFrom_cons_cases (store : Store) (created : Bool) (place : Place) (piece : List Char)
    (rest : List (List Char)) :
    ((step place piece = place ∨ step place piece = place.above ∨
        store.held? (step place piece) = some .directory) ∧
      store.makeFrom created place (piece :: rest) =
        store.makeFrom created (step place piece) rest) ∨
    (store.held? (step place piece) = none ∧
      store.makeFrom created place (piece :: rest) =
        (store.put (step place piece) .directory).makeFrom true (step place piece) rest) ∨
    ∃ content, store.held? (step place piece) = some (.file content) ∧
      store.makeFrom created place (piece :: rest) =
        (store, .error (if created || rest.all (·.isEmpty) then .exists else .notDirectory)) := by
  rw [makeFrom, step]
  split
  next stays => exact .inl ⟨.inl rfl, rfl⟩
  next =>
      split
      next above => exact .inl ⟨.inr (.inl rfl), rfl⟩
      next name =>
          dsimp only
          cases there : store.held? (place ++ [String.ofList piece]) with
          | none => exact .inr (.inl ⟨rfl, rfl⟩)
          | some entry =>
              cases entry with
              | directory => exact .inl ⟨.inr (.inr rfl), rfl⟩
              | file content => exact .inr (.inr ⟨content, rfl, rfl⟩)

theorem makeFrom_frame (store : Store) (created : Bool) (place : Place)
    (pieces : List (List Char)) :
    Frame (fun _ => False) store (store.makeFrom created place pieces).1 := by
  induction pieces generalizing store created place with
  | nil => exact .refl _ _
  | cons piece rest ih =>
      rcases store.makeFrom_cons_cases created place piece rest with
        ⟨_, onwards⟩ | ⟨free, onwards⟩ | ⟨content, _, stopped⟩
      · rw [onwards]
        exact ih store created _
      · rw [onwards]
        exact (put_new_frame free .directory).trans (ih _ true _)
      · rw [stopped]
        exact .refl _ _

theorem makeParent_frame (store : Store) (path : String) :
    Frame (fun _ => False) store (store.makeParent path).1 := by
  rw [makeParent]
  split
  · split
    · exact .refl _ _
    · exact makeFrom_frame store false _ _
  · exact .refl _ _

theorem inParent_frame {givenUp : Place → Prop} {next : Store → Store × Except FileFault Unit}
    (frame : ∀ store, Frame givenUp store (next store).1) (store : Store) (path : String) :
    Frame givenUp store (store.inParent path next).1 := by
  have made : Frame givenUp store (store.makeParent path).1 :=
    (store.makeParent_frame path).mono nofun
  rw [inParent]
  split
  next parent fault failed =>
      rw [failed] at made
      exact made
  next parent ready =>
      rw [ready] at made
      exact made.trans (frame parent)

theorem write_frame (store : Store) (path : String) (content : ByteArray) :
    Frame (fun place => store.resolve path = .ok place) store (store.write path content).1 := by
  rw [write]
  split
  next => exact .refl _ _
  next place resolved =>
      split
      next => exact .refl _ _
      next free =>
          apply (put_frame free (.file content)).mono
          rintro other rfl
          exact resolved

theorem create_frame (store : Store) (path : String) (content : ByteArray) :
    Frame (fun _ => False) store (store.create path content).1 := by
  rw [create]
  split
  · exact .refl _ _
  · split
    · exact .refl _ _
    next free => exact put_new_frame free (.file content)

theorem walk_cons_ok_iff (store : Store) (place final : Place) (piece : List Char)
    (rest : List (List Char)) :
    store.walk place (piece :: rest) = .ok final ↔
      store.held? place = some .directory ∧ store.walk (step place piece) rest = .ok final := by
  rw [walk, step]
  split
  next missing => simp [missing]
  next file => simp [file]
  next directory =>
      simp only [directory, true_and]
      split
      · exact Iff.rfl
      · split <;> exact Iff.rfl

theorem walk_append_ok_iff (store : Store) (place final : Place)
    (front back : List (List Char)) :
    store.walk place (front ++ back) = .ok final ↔
      ∃ reached, store.walk place front = .ok reached ∧ store.walk reached back = .ok final := by
  induction front generalizing place with
  | nil => simp [walk]
  | cons piece rest ih => simp [walk_cons_ok_iff, ih, and_assoc]

theorem walk_frame {givenUp : Place → Prop} {before after : Store} {place final : Place}
    {pieces : List (List Char)} (frame : Frame givenUp before after)
    (walked : before.walk place pieces = .ok final) : after.walk place pieces = .ok final := by
  induction pieces generalizing place with
  | nil => exact walked
  | cons piece rest ih =>
      rw [walk_cons_ok_iff] at walked ⊢
      exact ⟨frame.directories place walked.1, ih walked.2⟩

theorem resolve_frame {givenUp : Place → Prop} {before after : Store} {path : String}
    {place : Place} (frame : Frame givenUp before after)
    (resolved : before.resolve path = .ok place) : after.resolve path = .ok place := by
  rw [resolve] at resolved ⊢
  split at resolved
  next => simp at resolved
  next nonempty =>
      rw [if_neg nonempty]
      exact walk_frame frame resolved

theorem lookup_eq_file_iff (store : Store) (path : String) (content : ByteArray) :
    store.lookup path = .ok (.file content) ↔
      ∃ place, store.resolve path = .ok place ∧ store.held? place = some (.file content) := by
  rw [lookup]
  cases resolved : store.resolve path with
  | error fault => simp
  | ok place =>
      cases there : store.held? place with
      | none => simp [there]
      | some entry => simp [there]

theorem resolve_name {store : Store} {path : String} {place : Place} {front : List (List Char)}
    {name : List Char} (split : Path.pieces path = front ++ [name]) (isName : Path.IsName name)
    (resolved : store.resolve path = .ok place) :
    ∃ folder, store.walk (start path) front = .ok folder ∧
      store.held? folder = some .directory ∧ place = folder ++ [String.ofList name] := by
  rw [resolve] at resolved
  split at resolved
  next => simp at resolved
  next =>
      rw [split, walk_append_ok_iff] at resolved
      obtain ⟨folder, walked, last⟩ := resolved
      rw [walk_cons_ok_iff, step_name isName] at last
      exact ⟨folder, walked, last.1, (Except.ok.inj last.2).symm⟩

theorem directory_of_walk {store : Store} {place final : Place} {pieces : List (List Char)}
    (walked : store.walk place pieces = .ok final)
    (directory : store.held? final = some .directory) :
    store.held? place = some .directory := by
  cases pieces with
  | nil =>
      obtain rfl := Except.ok.inj walked
      exact directory
  | cons piece rest => exact ((walk_cons_ok_iff _ _ _ _ _).mp walked).1

theorem makeFrom_cons {store : Store} {place : Place} {piece : List Char}
    (directory : store.held? (step place piece) = some .directory) (created : Bool)
    (rest : List (List Char)) :
    store.makeFrom created place (piece :: rest) =
      store.makeFrom created (step place piece) rest := by
  rcases store.makeFrom_cons_cases created place piece rest with
    ⟨_, onwards⟩ | ⟨free, _⟩ | ⟨content, isFile, _⟩
  · exact onwards
  · simp [directory] at free
  · simp [directory] at isFile

theorem makeFrom_of_walk {store : Store} {place final : Place} {pieces : List (List Char)}
    (walked : store.walk place pieces = .ok final)
    (directory : store.held? final = some .directory) (created : Bool) :
    store.makeFrom created place pieces = (store, .ok ()) := by
  induction pieces generalizing place with
  | nil => rfl
  | cons piece rest ih =>
      obtain ⟨_, later⟩ := (walk_cons_ok_iff _ _ _ _ _).mp walked
      rw [makeFrom_cons (directory_of_walk later directory)]
      exact ih later

theorem start_slash {base : String} (nonempty : base ≠ "") (leaf : String) :
    start (base ++ "/" ++ leaf) = start base := by
  obtain ⟨c, rest, split⟩ := List.exists_cons_of_ne_nil (String.toList_eq_nil_iff.not.mpr nonempty)
  simp [start, Path.isAbsolute, split]

theorem makeParent_of_resolved {store : Store} {base leaf : String} {place : Place}
    {front : List (List Char)} {name : List Char} (inBase : Path.pieces base = front ++ [name])
    (isName : Path.IsName name) (plain : '/' ∉ leaf.toList) (isLeaf : Path.IsName leaf.toList)
    (resolved : store.resolve (base ++ "/" ++ leaf) = .ok place) :
    store.makeParent (base ++ "/" ++ leaf) = (store, .ok ()) := by
  have nonempty : base ≠ "" := by
    rintro rfl
    have empty : [[]] = front ++ [name] := inBase
    have last : [] = name := by simpa using congrArg List.getLast? empty
    exact isName.nonempty last.symm
  have split : Path.pieces (base ++ "/" ++ leaf) = Path.pieces base ++ [leaf.toList] := by
    rw [Path.pieces_slash, Path.pieces_plain plain]
  obtain ⟨folder, walked, directory, _⟩ := resolve_name split isLeaf resolved
  rw [start_slash nonempty] at walked
  rw [makeParent, Path.parent?_slash inBase isName plain isLeaf]
  simp only [String.isEmpty_iff, nonempty, ↓reduceIte]
  exact makeFrom_of_walk walked directory false

end ApiContracts.Store
