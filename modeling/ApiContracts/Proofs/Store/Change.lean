import ApiContracts.Proofs.Store.Tree

/-!
What carrying something out at a path can change. The file at the place of the path may become
another, directories may be made where the path passes, and every other place keeps what it holds.
-/

namespace ApiContracts.Store

/-- What may have happened at a place between two trees, the second made from the first by writing
a file to the path. -/
inductive Change (path : String) (before after : Store) (place : Place) : Prop
  | kept : after.held? place = before.held? place → Change path before after place
  | filled (content : ByteArray) : destination path = place →
      before.held? place ≠ some .directory → after.held? place = some (.file content) →
      Change path before after place
  | made : before.held? place = none → after.held? place = some .directory → OnWay path place →
      Change path before after place

theorem keepsShape_of_change {path : String} {before after : Store}
    (change : ∀ place, Change path before after place) : before.KeepsShape after := by
  constructor
  · intro place there
    cases change place with
    | kept same => exact same.trans there
    | filled content _ free _ => exact absurd there free
    | made none _ _ => simp [none] at there
  · intro place content there
    cases change place with
    | kept same => exact ⟨content, same.trans there⟩
    | filled other _ _ filled => exact ⟨other, filled⟩
    | made none _ _ => simp [none] at there

structure Making (start : Place) (pieces : List (List Char)) (before after : Store)
    (place : Place) : Prop where
  free : before.held? place = none
  there : after.held? place = some .directory
  passed : ∃ front back, pieces = front ++ back ∧ front.foldl step start = place

theorem Making.behind {start place : Place} {piece : List Char} {rest : List (List Char)}
    {before after : Store} (making : Making (step start piece) rest before after place) :
    Making start (piece :: rest) before after place := by
  obtain ⟨front, back, rfl, reached⟩ := making.passed
  exact ⟨making.free, making.there, piece :: front, back, rfl, reached⟩

theorem makeFrom_change (store : Store) (created : Bool) (start : Place)
    (pieces : List (List Char)) (place : Place) :
    (store.makeFrom created start pieces).1.held? place = store.held? place ∨
      Making start pieces store (store.makeFrom created start pieces).1 place := by
  induction pieces generalizing store created start with
  | nil => exact .inl rfl
  | cons piece rest ih =>
      rcases store.makeFrom_cons_cases created start piece rest with
        ⟨_, onwards⟩ | ⟨free, onwards⟩ | ⟨content, _, stopped⟩
      · rw [onwards]
        exact (ih store created _).imp_right Making.behind
      · rw [onwards]
        by_cases here : place = step start piece
        · subst here
          have noDirectory : store.held? (step start piece) ≠ some .directory := by simp [free]
          have put := store.held?_put_self (not_isFixed noDirectory) .directory
          have there := (makeFrom_frame _ true (step start piece) rest).directories _ put
          exact .inr ⟨free, there, [piece], rest, rfl, rfl⟩
        · have same := held?_put here store .directory
          rcases ih (store.put (step start piece) .directory) true _ with kept | making
          · exact .inl (kept.trans same)
          · have fromHere : Making (step start piece) rest store _ place :=
              ⟨same.symm.trans making.free, making.there, making.passed⟩
            exact .inr fromHere.behind
      · rw [stopped]
        exact .inl rfl

theorem makeParent_held (store : Store) (path : String) (place : Place) :
    (store.makeParent path).1.held? place = store.held? place ∨
      store.held? place = none ∧ (store.makeParent path).1.held? place = some .directory ∧
        OnWay path place := by
  rw [makeParent]
  split
  next parent isParent =>
      split
      next => exact .inl rfl
      next named =>
          rw [String.isEmpty_iff] at named
          by_cases root : parent = "/"
          · subst root
            exact .inl rfl
          · obtain ⟨rest, split, moving⟩ := Path.parent?_left isParent named root
            have begins : start parent = start path := by
              rcases Path.parent?_eq_some isParent with none | isRoot | ⟨leaf, rfl⟩
              · exact absurd none named
              · exact absurd isRoot root
              · exact (start_slash named leaf).symm
            rcases store.makeFrom_change false (start parent) (Path.pieces parent) place with
              kept | making
            · exact .inl kept
            · obtain ⟨front, back, inParent, reached⟩ := making.passed
              refine .inr ⟨making.free, making.there, front, back ++ rest, ?_, ?_, ?_⟩
              · rw [split, inParent, List.append_assoc]
              · simp only [Path.moves, List.filter_append, ne_eq, List.append_eq_nil_iff] at moving ⊢
                exact fun still => moving still.2
              · rw [← begins]
                exact reached
  next => exact .inl rfl

theorem makeParent_change (store : Store) (path : String) (place : Place) :
    Change path store (store.makeParent path).1 place := by
  rcases store.makeParent_held path place with kept | ⟨free, there, onWay⟩
  · exact .kept kept
  · exact .made free there onWay

theorem inParent_change {path : String} {next : Store → Store × Except FileFault Unit}
    (writes : ∀ made : Store, (next made).1 = made ∨
      made.held? (destination path) ≠ some .directory ∧
        ∃ content, (next made).1 = made.put (destination path) (.file content))
    (store : Store) (place : Place) : Change path store (store.inParent path next).1 place := by
  have change := store.makeParent_change path place
  have frame := store.makeParent_frame path
  rw [inParent]
  split
  next made fault failed =>
      rw [failed] at change
      exact change
  next made ready =>
      rw [ready] at change frame
      rcases writes made with same | ⟨free, content, put⟩
      · rw [same]
        exact change
      · rw [put]
        by_cases here : place = destination path
        · subst here
          apply Change.filled content rfl
          · exact fun there => free (frame.directories _ there)
          · exact made.held?_put_self (not_isFixed free) _
        · have same := held?_put here made (.file content)
          cases change with
          | kept kept => exact .kept (same.trans kept)
          | filled _ reached _ _ => exact absurd reached.symm here
          | made none there onWay => exact .made none (same.trans there) onWay

theorem write_change (path : String) (content : ByteArray) (store : Store) (place : Place) :
    Change path store (store.inParent path (·.write path content)).1 place := by
  apply inParent_change
  intro made
  rw [write]
  cases resolved : made.resolve path with
  | error fault => exact .inl rfl
  | ok reached =>
      dsimp only
      split
      next => exact .inl rfl
      next free => exact .inr ⟨resolve_eq_ok resolved ▸ free, content, by rw [resolve_eq_ok resolved]⟩

theorem create_change (path : String) (content : ByteArray) (store : Store) (place : Place) :
    Change path store (store.inParent path (·.create path content)).1 place := by
  apply inParent_change
  intro made
  rw [create]
  cases resolved : made.resolve path with
  | error fault => exact .inl rfl
  | ok reached =>
      dsimp only
      split
      next => exact .inl rfl
      next free =>
          rw [resolve_eq_ok resolved]
          exact .inr ⟨by simp [free], content, rfl⟩

end ApiContracts.Store
