import ApiContracts.Proofs.Store.Repeat

/-!
What the result of an operation says about the tree that it leaves. A write succeeds just if the
file is then there with its content, and a file that may only be created is created or found just
if there is then something at its path. What could not be made stands in the way of the path for
good.
-/

namespace ApiContracts.Store

theorem walk_ne_exists (store : Store) (place : Place) (pieces : List (List Char)) :
    store.walk place pieces ≠ .error .exists := by
  induction pieces generalizing place with
  | nil => simp [walk]
  | cons piece rest ih =>
      rw [walk]
      split
      · simp
      · simp
      · split
        · exact ih place
        · split
          · exact ih place.above
          · exact ih _

theorem resolve_ne_exists (store : Store) (path : String) :
    store.resolve path ≠ .error .exists := by
  rw [resolve]
  split
  · simp
  · exact store.walk_ne_exists _ _

theorem write_eq_ok {store after : Store} {path : String} {content : ByteArray}
    (done : store.write path content = (after, .ok ())) :
    ∃ place, store.resolve path = .ok place ∧ store.held? place ≠ some .directory ∧
      store.put place (.file content) = after := by
  rw [write] at done
  split at done
  next => simp at done
  next place resolved =>
      split at done
      next => simp at done
      next free => exact ⟨place, resolved, free, (Prod.mk.inj done).1⟩

theorem write_file {store : Store} {path : String} {place : Place} {old : ByteArray}
    (resolved : store.resolve path = .ok place) (there : store.held? place = some (.file old))
    (content : ByteArray) :
    store.write path content = (store.put place (.file content), .ok ()) := by
  simp only [write, resolved, there]

theorem create_eq_ok {store after : Store} {path : String} {content : ByteArray}
    (done : store.create path content = (after, .ok ())) :
    ∃ place, store.resolve path = .ok place ∧ store.held? place = none ∧
      store.put place (.file content) = after := by
  rw [create] at done
  split at done
  next => simp at done
  next place resolved =>
      split at done
      next => simp at done
      next free => exact ⟨place, resolved, free, (Prod.mk.inj done).1⟩

theorem create_eq_exists {store after : Store} {path : String} {content : ByteArray}
    (taken : store.create path content = (after, .error .exists)) :
    store = after ∧ ∃ place entry, store.resolve path = .ok place ∧
      store.held? place = some entry := by
  rw [create] at taken
  split at taken
  next fault failed =>
      obtain ⟨_, same⟩ := Prod.mk.inj taken
      rw [Except.error.inj same] at failed
      exact absurd failed (store.resolve_ne_exists path)
  next place resolved =>
      split at taken
      next entry there => exact ⟨(Prod.mk.inj taken).1, place, entry, resolved, there⟩
      next => simp at taken

theorem create_taken {store : Store} {path : String} {place : Place} {entry : Entry}
    (resolved : store.resolve path = .ok place) (there : store.held? place = some entry)
    (content : ByteArray) : store.create path content = (store, .error .exists) := by
  simp only [create, resolved, there]

theorem has_iff (store : Store) (path : String) :
    store.has path = true ↔
      ∃ place entry, store.resolve path = .ok place ∧ store.held? place = some entry := by
  rw [has, lookup]
  cases resolved : store.resolve path with
  | error fault => simp [Except.isOk, Except.toBool]
  | ok place =>
      cases there : store.held? place with
      | none => simp [there, Except.isOk, Except.toBool]
      | some entry => simp [there, Except.isOk, Except.toBool]

theorem lookup_put {store : Store} {path : String} {place : Place}
    (resolved : store.resolve path = .ok place) (free : store.held? place ≠ some .directory)
    (content : ByteArray) :
    (store.put place (.file content)).lookup path = .ok (.file content) := by
  rw [lookup_eq_file_iff]
  exact ⟨place, resolve_frame (put_frame free _) resolved,
    store.held?_put_self (not_isFixed free) _⟩

theorem has_of_lookup {store : Store} {path : String} {content : ByteArray}
    (there : store.lookup path = .ok (.file content)) : store.has path = true := by
  rw [has, there]
  rfl

theorem makeFrom_failed {store made : Store} {created : Bool} {place final : Place}
    {pieces : List (List Char)} {fault : FileFault}
    (failed : store.makeFrom created place pieces = (made, .error fault))
    (walked : made.walk place pieces = .ok final) : made.held? final ≠ some .directory := by
  induction pieces generalizing store created place with
  | nil => simp [makeFrom] at failed
  | cons piece rest ih =>
      have later := ((walk_cons_ok_iff _ _ _ _ _).mp walked).2
      rcases store.makeFrom_cons_cases created place piece rest with
        ⟨_, onwards⟩ | ⟨_, onwards⟩ | ⟨content, isFile, stopped⟩
      · exact ih (onwards.symm.trans failed) later
      · exact ih (onwards.symm.trans failed) later
      · obtain ⟨rfl, _⟩ := Prod.mk.inj (stopped.symm.trans failed)
        intro directory
        rw [directory_of_walk later directory] at isFile
        simp at isFile

theorem makeParent_failed {store made : Store} {path : String} {fault : FileFault}
    (failed : store.makeParent path = (made, .error fault)) (place : Place) :
    made.resolve path ≠ .ok place := by
  rw [makeParent] at failed
  split at failed
  next parent isParent =>
      split at failed
      next => simp at failed
      next nonempty =>
          rw [String.isEmpty_iff] at nonempty
          rcases Path.parent?_eq_some isParent with empty | root | ⟨rest, rfl⟩
          · exact absurd empty nonempty
          · subst root
            have here : made.held? Place.root = some .directory := made.held?_fixed rfl
            have pieces : Path.pieces "/" = [[], []] := rfl
            have walked : made.walk (start "/") (Path.pieces "/") = .ok Place.root := by
              rw [pieces, walk_cons_ok_iff, walk_cons_ok_iff]
              exact ⟨here, here, rfl⟩
            exact absurd here (makeFrom_failed failed walked)
          · intro resolved
            rw [resolve] at resolved
            split at resolved
            next => simp at resolved
            next =>
                rw [Path.pieces_slash, start_slash nonempty, walk_append_ok_iff] at resolved
                obtain ⟨folder, walked, behind⟩ := resolved
                obtain ⟨piece, pieces, split⟩ :=
                  List.exists_cons_of_ne_nil (Text.splitAt_ne_nil (· == '/') rest.toList)
                rw [Path.pieces, split, walk_cons_ok_iff] at behind
                exact makeFrom_failed failed walked behind.1
  next => simp at failed

theorem write_ok_iff (store : Store) (path : String) (content : ByteArray) :
    (store.write path content).2 = .ok () ↔
      (store.write path content).1.lookup path = .ok (.file content) := by
  rw [write]
  cases resolved : store.resolve path with
  | error fault => simp [lookup, resolved]
  | ok place =>
      dsimp only
      split
      next directory => simp [lookup, resolved, directory]
      next free => simp [lookup_put resolved free content]

theorem inParent_write_ok_iff (store : Store) (path : String) (content : ByteArray) :
    (store.inParent path (·.write path content)).2 = .ok () ↔
      (store.inParent path (·.write path content)).1.lookup path = .ok (.file content) := by
  rw [inParent]
  split
  next made fault failed =>
      simp only [reduceCtorEq, false_iff]
      intro there
      obtain ⟨place, resolved, _⟩ := (lookup_eq_file_iff _ _ _).mp there
      exact makeParent_failed failed place resolved
  next made ready => exact made.write_ok_iff path content

theorem create_ok_or_exists_iff (store : Store) (path : String) (content : ByteArray) :
    ((store.create path content).2 = .ok () ∨
        (store.create path content).2 = .error .exists) ↔
      (store.create path content).1.has path = true := by
  rw [create]
  cases resolved : store.resolve path with
  | error fault =>
      have other := store.resolve_ne_exists path
      rw [resolved] at other
      simpa [has_iff, resolved] using other
  | ok place =>
      dsimp only
      split
      next entry there => simp [has_iff, resolved, there]
      next free =>
          have noDirectory : store.held? place ≠ some .directory := by simp [free]
          simp [has_of_lookup (lookup_put resolved noDirectory content)]

end ApiContracts.Store
