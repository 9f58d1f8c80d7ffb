import ApiContracts.Proofs.Emission.RenderFailures
import ApiContracts.Proofs.Store.Change

/-!
What a run that writes makes of the tree. Each instruction changes what is at its own place and
makes directories on its way, and so what the run does at the place of one instruction can be told
from the tree before it and the tree after it.
-/

namespace ApiContracts

open Store

namespace Instruction

def place (instruction : Instruction) : Place := destination instruction.path

theorem emit_change (renderer : Renderer) (instruction : Instruction) (store : Store)
    (place : Place) :
    Change instruction.path store (instruction.emit renderer false store).1 place := by
  rw [emit]
  split
  next => exact .kept rfl
  next text _ =>
      rw [if_neg Bool.false_ne_true]
      cases policy : instruction.policy with
      | always =>
          rw [write_always policy]
          exact write_change _ _ _ _
      | writeOnce =>
          rw [write_writeOnce policy]
          exact create_change _ _ _ _

theorem emit_keepsShape (renderer : Renderer) (instruction : Instruction) (store : Store) :
    store.KeepsShape (instruction.emit renderer false store).1 :=
  keepsShape_of_change (instruction.emit_change renderer store)

theorem emit_renders {renderer : Renderer} {instruction : Instruction} {before after : Store}
    {outcome : Outcome} (renders : renderer.renders instruction = true)
    (emitted : instruction.emit renderer false before = (after, outcome)) :
    ∃ text, instruction.write text before = (after, outcome) := by
  obtain ⟨text, rendered⟩ := Renderer.renders_iff.mp renders
  exact ⟨text, by simpa [emit, rendered] using emitted⟩

def Spared (renderer : Renderer) (instruction : Instruction) (outcome : Outcome) : Prop :=
  renderer.renders instruction = true → ∀ reason, outcome ≠ .failed reason

theorem write_reaches {instruction : Instruction} {text : String} {before after : Store}
    {outcome : Outcome} (done : instruction.write text before = (after, outcome))
    (spared : ∀ reason, outcome ≠ .failed reason) :
    after.resolve instruction.path = .ok instruction.place ∧
      after.held? instruction.place ≠ none := by
  have inPlace := instruction.write_inPlace_iff text before
  rw [done] at inPlace
  have there : after.has instruction.path = true := by
    have held : instruction.InPlace text after := by
      apply inPlace.mp
      cases outcome with
      | written => exact .inl rfl
      | skipped => exact .inr rfl
      | failed reason => exact absurd rfl (spared reason)
    exact held.elim has_of_lookup (·.2)
  obtain ⟨place, entry, resolved, held⟩ := (has_iff _ _).mp there
  have same : instruction.place = place := resolve_eq_ok resolved
  rw [same]
  exact ⟨resolved, by simp [held]⟩

theorem write_skipped_iff {instruction : Instruction} {text : String} {before after : Store}
    {outcome : Outcome} (once : instruction.policy = .writeOnce)
    (done : instruction.write text before = (after, outcome))
    (spared : ∀ reason, outcome ≠ .failed reason) :
    outcome = .skipped ↔ before.held? instruction.place ≠ none ∨
      after.held? instruction.place = some .directory := by
  rw [write, once] at done
  dsimp only at done
  split at done
  next made fault failed =>
      obtain ⟨_, rfl⟩ := Prod.mk.inj done
      exact absurd rfl (spared fault.message)
  next made ready =>
      have parents := before.makeParent_held instruction.path instruction.place
      rw [ready] at parents
      split at done
      next stored created =>
          obtain ⟨rfl, rfl⟩ := Prod.mk.inj done
          obtain ⟨place, resolved, free, rfl⟩ := create_eq_ok created
          obtain rfl : instruction.place = place := resolve_eq_ok resolved
          have noDirectory : made.held? instruction.place ≠ some .directory := by simp [free]
          have isFile := made.held?_put_self (not_isFixed noDirectory) (.file text.toUTF8)
          have wasFree : before.held? instruction.place = none := by
            rcases parents with same | ⟨absent, _⟩
            · exact same.symm.trans free
            · exact absent
          rw [isFile, wasFree]
          simp
      next stored found =>
          obtain ⟨rfl, rfl⟩ := Prod.mk.inj done
          obtain ⟨rfl, place, entry, resolved, there⟩ := create_eq_exists found
          obtain rfl : instruction.place = place := resolve_eq_ok resolved
          simp only [true_iff]
          rcases parents with same | ⟨_, directory, _⟩
          · left
            simp [← same, there]
          · exact .inr directory
      next =>
          obtain ⟨_, rfl⟩ := Prod.mk.inj done
          exact absurd rfl (spared _)

end Instruction

namespace CarriedOut

variable {renderer : Renderer} {before after : Store} {instructions : List Instruction}
  {outcomes : List Outcome}

theorem keepsShape (run : CarriedOut renderer false before instructions outcomes after) :
    before.KeepsShape after := by
  induction run with
  | nil store => exact .refl store
  | @cons before between after instruction outcome rest outcomes emitted _ ih =>
      have head := instruction.emit_keepsShape renderer before
      rw [emitted] at head
      exact head.trans ih

theorem made_onWay (run : CarriedOut renderer false before instructions outcomes after)
    {place : Place} (free : before.held? place = none)
    (there : after.held? place = some .directory) :
    ∃ instruction ∈ instructions, OnWay instruction.path place := by
  induction run with
  | nil => simp [free] at there
  | @cons before between after instruction outcome rest outcomes emitted later ih =>
      have change := instruction.emit_change renderer before place
      rw [emitted] at change
      cases change with
      | kept same =>
          obtain ⟨maker, member, onWay⟩ := ih (same.trans free) there
          exact ⟨maker, List.mem_cons_of_mem _ member, onWay⟩
      | filled content _ _ filled =>
          obtain ⟨other, still⟩ := later.keepsShape.files place content filled
          simp [there] at still
      | made _ _ onWay => exact ⟨instruction, List.mem_cons_self, onWay⟩

theorem reaches (run : CarriedOut renderer false before instructions outcomes after) :
    ∀ told ∈ instructions.zip outcomes, renderer.renders told.1 = true →
      told.1.Spared renderer told.2 → after.resolve told.1.path = .ok told.1.place := by
  induction run with
  | nil => simp
  | @cons before between after instruction outcome rest outcomes emitted later ih =>
      rw [List.zip_cons_cons, List.forall_mem_cons]
      refine ⟨?_, ih⟩
      intro renders spared
      obtain ⟨text, wrote⟩ := Instruction.emit_renders renders emitted
      have reached := (Instruction.write_reaches wrote (spared renders)).1
      exact resolve_frame later.keepsShape.frame reached

/-- In a run, a file that is only written once is skipped if something was at its place before the
run or a directory is there after it. -/
theorem skipped_iff (run : CarriedOut renderer false before instructions outcomes after)
    (different : instructions.Pairwise (·.place ≠ ·.place)) :
    ∀ told ∈ instructions.zip outcomes, renderer.renders told.1 = true →
      told.1.policy = .writeOnce → told.1.Spared renderer told.2 →
      (told.2 = .skipped ↔ before.held? told.1.place ≠ none ∨
        after.held? told.1.place = some .directory) := by
  induction run with
  | nil => simp
  | @cons before between after instruction outcome rest outcomes emitted later ih =>
      obtain ⟨head, tail⟩ := List.pairwise_cons.mp different
      rw [List.zip_cons_cons, List.forall_mem_cons]
      constructor
      · intro renders once spared
        obtain ⟨text, wrote⟩ := Instruction.emit_renders renders emitted
        have reached := (Instruction.write_reaches wrote (spared renders)).2
        rw [Instruction.write_skipped_iff once wrote (spared renders)]
        -- Something is there from now on, and it stays what it is.
        have stays : between.held? instruction.place = some .directory ↔
            after.held? instruction.place = some .directory := by
          refine ⟨later.keepsShape.directories _, fun there => ?_⟩
          cases held : between.held? instruction.place with
          | none => exact absurd held reached
          | some entry =>
              cases entry with
              | directory => rfl
              | file content =>
                  obtain ⟨other, still⟩ := later.keepsShape.files _ content held
                  simp [there] at still
        rw [stays]
      · intro told member renders once spared
        rw [ih tail told member renders once spared]
        have change := instruction.emit_change renderer before told.1.place
        rw [emitted] at change
        cases change with
        | kept same => rw [same]
        | filled _ reached _ _ =>
            exact absurd reached (head told.1 (List.of_mem_zip member).1)
        | made _ there _ =>
            have atEnd := later.keepsShape.directories _ there
            simp [atEnd]

end CarriedOut

end ApiContracts
