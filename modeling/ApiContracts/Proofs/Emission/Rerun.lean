import ApiContracts.Proofs.Emission.Handlers
import ApiContracts.Proofs.Store.Outcome

/-!
Generating again changes nothing. A run without failures leaves every folder and file in place
that it needs, so the same run made at once writes the same texts to the same files, skips its
handlers, and ends with the tree that it started from.
-/

namespace ApiContracts

namespace Store

theorem KeepsShape.held {earlier later : Store} (keeps : earlier.KeepsShape later)
    {place : Place} {entry : Entry} (there : earlier.held? place = some entry) :
    ∃ other, later.held? place = some other := by
  cases entry with
  | directory => exact ⟨_, keeps.directories place there⟩
  | file content =>
      obtain ⟨other, still⟩ := keeps.files place content there
      exact ⟨_, still⟩

theorem makeParent_keepsShape {store made : Store} {path : String}
    (ready : store.makeParent path = (made, .ok ())) : store.KeepsShape made := by
  have frame := store.makeParent_frame path
  rw [ready] at frame
  exact frame.keepsShape

theorem inParent_write_again {store after : Store} {path : String} {content : ByteArray}
    (done : store.inParent path (·.write path content) = (after, .ok ())) :
    ∃ place, store.KeepsShape after ∧ Frame (· = place) store after ∧
      after.held? place = some (.file content) ∧ ∀ later, after.KeepsShape later →
        later.inParent path (·.write path content) = (later.put place (.file content), .ok ()) := by
  rw [inParent] at done
  split at done
  next => simp at done
  next made ready =>
      obtain ⟨place, resolved, free, rfl⟩ := write_eq_ok done
      have shape := put_file_keepsShape free content
      have written := made.held?_put_self (not_isFixed free) (.file content)
      have parents : Frame (fun _ => False) store made := by
        simpa only [ready] using store.makeParent_frame path
      refine ⟨place, (makeParent_keepsShape ready).trans shape,
        (parents.mono fun _ gone => gone.elim).trans (put_frame free _), written, ?_⟩
      intro later keeps
      have whole := shape.trans keeps
      obtain ⟨old, there⟩ := keeps.files place content written
      rw [inParent, makeParent_again ready whole]
      exact write_file (resolve_frame whole.frame resolved) there content

end Store

namespace Instruction

def outcomeAgain (instruction : Instruction) : Outcome :=
  match instruction.policy with
  | .always => .written
  | .writeOnce => .skipped

/-- An instruction done again: what it changes, and what becomes of it. -/
structure Redone (instruction : Instruction) (written : Place → Prop) (before after : Store)
    (again : Store → Store × Outcome) : Prop where
  repeats : Store.Repeats written before after fun later => (again later).1
  outcome : ∀ later, after.KeepsShape later → (again later).2 = instruction.outcomeAgain

theorem write_always_again {instruction : Instruction} {text : String} {before after : Store}
    {outcome : Outcome} (always : instruction.policy = .always)
    (done : instruction.write text before = (after, outcome))
    (succeeded : ∀ reason, outcome ≠ .failed reason) :
    ∃ written, instruction.Redone written before after (instruction.write text) := by
  rw [write, always] at done
  dsimp only at done
  split at done
  next stored wrote =>
      obtain ⟨rfl, _⟩ := Prod.mk.inj done
      obtain ⟨place, shape, frame, there, again⟩ := Store.inParent_write_again wrote
      have rewrite (later : Store) (keeps : stored.KeepsShape later) :
          instruction.write text later =
            (later.put place (.file text.toUTF8), .written) := by
        simp only [write, always, again later keeps]
      have free (later : Store) (keeps : stored.KeepsShape later) :
          place.isFixed = false := by
        obtain ⟨old, still⟩ := keeps.files place _ there
        have noDirectory : later.held? place ≠ some .directory := by simp [still]
        exact Store.not_isFixed noDirectory
      refine ⟨(· = place), ⟨shape, frame, ?_, ?_, ?_⟩, ?_⟩
      · rintro _ rfl
        exact ⟨_, there⟩
      · rintro later keeps _ rfl
        rw [rewrite later keeps, there]
        exact later.held?_put_self (free later keeps) _
      · intro later keeps other different
        rw [rewrite later keeps]
        exact Store.held?_put different later _
      · intro later keeps
        rw [rewrite later keeps, outcomeAgain, always]
  next stored fault failed =>
      obtain ⟨_, rfl⟩ := Prod.mk.inj done
      exact absurd rfl (succeeded fault.message)

theorem write_once_skips {instruction : Instruction} {before made stored later : Store}
    {place : Place} {entry : Entry} (once : instruction.policy = .writeOnce)
    (ready : before.makeParent instruction.path = (made, .ok ()))
    (resolved : made.resolve instruction.path = .ok place) (shape : made.KeepsShape stored)
    (there : stored.held? place = some entry) (keeps : stored.KeepsShape later) (text : String) :
    instruction.write text later = (later, .skipped) := by
  have whole := shape.trans keeps
  obtain ⟨other, still⟩ := keeps.held there
  simp only [write, once, Store.makeParent_again ready whole,
    Store.create_taken (Store.resolve_frame whole.frame resolved) still]

theorem Redone.of_skips {instruction : Instruction} {before after : Store}
    {again : Store → Store × Outcome} (once : instruction.policy = .writeOnce)
    (frame : Store.Frame (fun _ => False) before after)
    (skips : ∀ later, after.KeepsShape later → again later = (later, .skipped)) :
    instruction.Redone (fun _ => False) before after again := by
  refine ⟨⟨frame.keepsShape, frame, nofun, nofun, ?_⟩, ?_⟩
  · intro later keeps place _
    rw [skips later keeps]
  · intro later keeps
    rw [skips later keeps, outcomeAgain, once]

theorem write_once_again {instruction : Instruction} {text : String} {before after : Store}
    {outcome : Outcome} (once : instruction.policy = .writeOnce)
    (done : instruction.write text before = (after, outcome))
    (succeeded : ∀ reason, outcome ≠ .failed reason) :
    instruction.Redone (fun _ => False) before after (instruction.write text) := by
  rw [write, once] at done
  dsimp only at done
  split at done
  next stored fault failed =>
      obtain ⟨_, rfl⟩ := Prod.mk.inj done
      exact absurd rfl (succeeded fault.message)
  next made ready =>
      have parents : Store.Frame (fun _ => False) before made := by
        simpa only [ready] using before.makeParent_frame instruction.path
      have creating := made.create_frame instruction.path text.toUTF8
      split at done
      next stored created =>
          obtain ⟨rfl, _⟩ := Prod.mk.inj done
          rw [created] at creating
          obtain ⟨place, resolved, free, rfl⟩ := Store.create_eq_ok created
          have noDirectory : made.held? place ≠ some .directory := by simp [free]
          have there := made.held?_put_self (Store.not_isFixed noDirectory) (.file text.toUTF8)
          exact .of_skips once (parents.trans creating) fun later keeps =>
            write_once_skips once ready resolved creating.keepsShape there keeps text
      next stored found =>
          obtain ⟨rfl, _⟩ := Prod.mk.inj done
          obtain ⟨rfl, place, entry, resolved, there⟩ := Store.create_eq_exists found
          exact .of_skips once parents fun later keeps =>
            write_once_skips once ready resolved (.refl _) there keeps text
      next =>
          obtain ⟨_, rfl⟩ := Prod.mk.inj done
          exact absurd rfl (succeeded _)

theorem emit_again {instruction : Instruction} {renderer : Renderer} {before : Store}
    (succeeded : ∀ reason, (instruction.emit renderer false before).2 ≠ .failed reason) :
    ∃ written, instruction.Redone written before (instruction.emit renderer false before).1
      (instruction.emit renderer false) := by
  cases rendered : renderer.render instruction with
  | error reason => simp [emit, rendered] at succeeded
  | ok text =>
      have same : instruction.emit renderer false = instruction.write text := by
        funext store
        simp [emit, rendered]
      rw [same] at succeeded ⊢
      cases policy : instruction.policy with
      | always => exact write_always_again policy rfl succeeded
      | writeOnce => exact ⟨_, write_once_again policy rfl succeeded⟩

end Instruction

theorem emitAll_store (renderer : Renderer) (dryRun : Bool) (instructions : List Instruction)
    (store : Store) (report : Report) :
    (emitAll renderer dryRun instructions store report).1 =
      instructions.foldl (fun store instruction => (instruction.emit renderer dryRun store).1)
        store := by
  induction instructions generalizing store report with
  | nil => rfl
  | cons instruction rest ih =>
      rw [emitAll, List.foldl_cons]
      exact ih _ _

theorem Report.failed_prefix_add (report : Report) (path : String) (outcome : Outcome) :
    report.failed <+: (report.add path outcome).failed := by
  cases outcome with
  | written => exact List.prefix_refl _
  | skipped => exact List.prefix_refl _
  | failed reason => exact List.prefix_append _ _

theorem emitAll_failed_prefix (renderer : Renderer) (dryRun : Bool)
    (instructions : List Instruction) (store : Store) (report : Report) :
    report.failed <+: (emitAll renderer dryRun instructions store report).2.failed := by
  induction instructions generalizing store report with
  | nil => exact List.prefix_refl _
  | cons instruction rest ih =>
      rw [emitAll]
      exact (report.failed_prefix_add _ _).trans (ih _ _)

def Report.settle (report : Report) (instructions : List Instruction) : Report :=
  instructions.foldl (fun report instruction =>
    report.add instruction.path instruction.outcomeAgain) report

theorem Report.settle_eq (report : Report) {instructions : List Instruction}
    (policies : ∀ instruction ∈ instructions, instruction.policy = instruction.kind.policy) :
    report.settle instructions =
      { written := report.written ++ (instructions.filter (·.kind != .handler)).map (·.path)
        skipped := report.skipped ++ (instructions.filter (·.kind == .handler)).map (·.path)
        failed := report.failed } := by
  induction instructions generalizing report with
  | nil => simp [settle]
  | cons instruction rest ih =>
      have policy := policies instruction List.mem_cons_self
      have later := ih (report.add instruction.path instruction.outcomeAgain)
        fun other member => policies other (List.mem_cons_of_mem _ member)
      rw [settle, List.foldl_cons]
      rw [settle] at later
      rw [later, Instruction.outcomeAgain, policy]
      cases kind : instruction.kind <;>
        simp [ArtifactKind.policy, Report.add, kind]

theorem emitAll_again {renderer : Renderer} {instructions : List Instruction} {before : Store}
    {report : Report}
    (clean : (emitAll renderer false instructions before report).2.failed = []) :
    ∃ written,
      Store.Repeats written before (emitAll renderer false instructions before report).1
        (fun later => instructions.foldl (fun store instruction =>
          (instruction.emit renderer false store).1) later) ∧
      ∀ later, (emitAll renderer false instructions before report).1.KeepsShape later →
        ∀ earlier : Report, (emitAll renderer false instructions later earlier).2 =
          earlier.settle instructions := by
  induction instructions generalizing before report with
  | nil => exact ⟨_, .refl before, fun _ _ _ => rfl⟩
  | cons instruction rest ih =>
      rw [emitAll] at clean ⊢
      have nothing := emitAll_failed_prefix renderer false rest
        (instruction.emit renderer false before).1
        (report.add instruction.path (instruction.emit renderer false before).2)
      rw [clean, List.prefix_nil] at nothing
      have succeeded : ∀ reason, (instruction.emit renderer false before).2 ≠ .failed reason := by
        intro reason failed
        simp [failed, Report.add] at nothing
      obtain ⟨early, head⟩ := Instruction.emit_again succeeded
      obtain ⟨late, tail, reported⟩ := ih clean
      refine ⟨_, head.repeats.trans tail, ?_⟩
      intro later keeps earlier
      have before := tail.shape.trans keeps
      have after := keeps.trans (head.repeats.keepsShape before)
      rw [emitAll]
      rw [reported _ after, head.outcome later before]
      rfl

/-- Generating again is idempotent. If a run that writes ends without failures, then the same run
made on the tree that it leaves finds every place of that tree holding what it held before, and
it reports just this: all files but those of handlers written, and those of handlers skipped, each
in the order of the plan. -/
theorem rerun_idempotent (run : Run) (writes : run.dryRun = false) (store : Store)
    {report : Report} (reported : (run.result store).2 = .ok report)
    (clean : report.hasFailures = false) :
    ∃ instructions, run.instructions = .ok instructions ∧
      (run.result (run.result store).1).2 = .ok
        { written := (instructions.filter (·.kind != .handler)).map (·.path)
          skipped := (instructions.filter (·.kind == .handler)).map (·.path)
          failed := [] } ∧
      ∀ place, (run.result (run.result store).1).1.held? place =
        (run.result store).1.held? place := by
  cases planned : run.instructions with
  | error error =>
      rw [Run.instructions] at planned
      simp [Run.result, generate, planned] at reported
  | ok instructions =>
      simp only [Run.result_eq planned, writes, Except.ok.injEq] at reported ⊢
      subst reported
      have noFailure : (emitAll .bundled false instructions store .empty).2.failed = [] := by
        simpa [Report.hasFailures] using clean
      obtain ⟨written, repeats, settled⟩ := emitAll_again noFailure
      refine ⟨instructions, rfl, ?_, ?_⟩
      · rw [settled _ (.refl _), Report.settle_eq]
        · simp [Report.empty]
        · exact fun instruction member => (Run.fits planned member).policy_eq
      · intro place
        rw [emitAll_store _ _ _ (emitAll .bundled false instructions store .empty).1]
        exact repeats.idempotent place

def twins : Document :=
  { title := "Twins"
    version := "1"
    operations :=
      [⟨"addPet", ⟨"POST"⟩, "/pets", none, [], [], some ⟨.reference "Pet", true⟩,
        .single (.reference "old/../Pet")⟩]
    models := [⟨"Pet", none, [], []⟩, ⟨"old/../Pet", none, [], ["tame"]⟩] }

def twinsRun : Run := ⟨twins, .standard, "out", false⟩

theorem twins_rerun :
    ∃ report instructions, (twinsRun.result .empty).2 = .ok report ∧
      report.hasFailures = false ∧ twinsRun.instructions = .ok instructions ∧
      (twinsRun.result (twinsRun.result .empty).1).2 = .ok
        { written := (instructions.filter (·.kind != .handler)).map (·.path)
          skipped := (instructions.filter (·.kind == .handler)).map (·.path)
          failed := [] } ∧
      ∀ place, (twinsRun.result (twinsRun.result .empty).1).1.held? place =
        (twinsRun.result .empty).1.held? place := by
  have clean : (twinsRun.result .empty).2.toOption.map (·.hasFailures) = some false := by
    decide +kernel
  cases reported : (twinsRun.result .empty).2 with
  | error error => simp [reported, Except.toOption] at clean
  | ok report =>
      rw [reported] at clean
      have noFailure : report.hasFailures = false := Option.some.inj clean
      obtain ⟨instructions, planned, again⟩ :=
        rerun_idempotent twinsRun rfl .empty reported noFailure
      exact ⟨report, instructions, rfl, noFailure, planned, again⟩

end ApiContracts
