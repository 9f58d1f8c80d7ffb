import ApiContracts.Proofs.Emission.Commands

/-!
Nothing is lost between a document and the report of its run. A plan has a request and a handler
for each operation, its instructions are its artifacts one by one and in order, and a report has
the path of every instruction in exactly one of its lists.
-/

namespace ApiContracts

def Subject.name : Subject → String
  | .dto made => made.name
  | .validator made => made.name
  | .request made => made.name
  | .handler made _ => made.name

/-- Instructions carried out one after the other, each on the tree that those before it left, with
what became of each. -/
inductive CarriedOut (renderer : Renderer) (dryRun : Bool) :
    Store → List Instruction → List Outcome → Store → Prop
  | nil (store : Store) : CarriedOut renderer dryRun store [] [] store
  | cons {before between after : Store} {instruction : Instruction} {outcome : Outcome}
      {rest : List Instruction} {outcomes : List Outcome} :
      instruction.emit renderer dryRun before = (between, outcome) →
      CarriedOut renderer dryRun between rest outcomes after →
      CarriedOut renderer dryRun before (instruction :: rest) (outcome :: outcomes) after

namespace Report

def tally (told : List (Instruction × Outcome)) : Report :=
  { written := (told.filter (·.2 == .written)).map (·.1.path)
    skipped := (told.filter (·.2 == .skipped)).map (·.1.path)
    failed := told.filterMap fun (instruction, outcome) =>
      match outcome with
      | .failed reason => some (instruction.path, reason)
      | _ => none }

theorem tally_cons (instruction : Instruction) (outcome : Outcome)
    (told : List (Instruction × Outcome)) :
    tally ((instruction, outcome) :: told) =
      { written := (empty.add instruction.path outcome).written ++ (tally told).written
        skipped := (empty.add instruction.path outcome).skipped ++ (tally told).skipped
        failed := (empty.add instruction.path outcome).failed ++ (tally told).failed } := by
  cases outcome <;> simp [tally, add, empty]

theorem tally_perm (told : List (Instruction × Outcome)) :
    ((tally told).written ++ (tally told).skipped ++ (tally told).failed.map Prod.fst).Perm
      (told.map (·.1.path)) := by
  induction told with
  | nil => exact .refl _
  | cons head rest ih =>
      obtain ⟨instruction, outcome⟩ := head
      rw [tally_cons, List.map_cons]
      refine .trans ?_ (ih.cons instruction.path)
      cases outcome with
      | written => exact .refl _
      | skipped =>
          simp only [add, empty, List.nil_append, List.append_assoc]
          exact List.perm_middle
      | failed reason =>
          simp only [add, empty, List.nil_append, List.map_append, List.map_cons, List.map_nil]
          exact List.perm_middle

/-- Each instruction of a run is in exactly one list of its report: the lists are those of the
outcomes, in order and with nothing else, and only what is written once is skipped. -/
structure Accounts (report : Report) (instructions : List Instruction) (outcomes : List Outcome) :
    Prop where
  each : outcomes.length = instructions.length
  report_eq : report = tally (instructions.zip outcomes)
  once : (report.written ++ report.skipped ++ report.failed.map Prod.fst).Perm
    (instructions.map (·.path))
  spared : ∀ told ∈ instructions.zip outcomes, told.2 = .skipped → told.1.policy = .writeOnce

end Report

theorem Instruction.emit_skipped {renderer : Renderer} {dryRun : Bool} {instruction : Instruction}
    {before after : Store} (skipped : instruction.emit renderer dryRun before = (after, .skipped)) :
    instruction.policy = .writeOnce := by
  cases policy : instruction.policy with
  | writeOnce => rfl
  | always =>
      rw [emit] at skipped
      split at skipped
      next => simp at skipped
      next text _ =>
          split at skipped
          · simp [foresee, policy] at skipped
          · rw [write, policy] at skipped
            dsimp only at skipped
            split at skipped <;> simp at skipped

theorem CarriedOut.spared {renderer : Renderer} {dryRun : Bool} {before after : Store}
    {instructions : List Instruction} {outcomes : List Outcome}
    (run : CarriedOut renderer dryRun before instructions outcomes after) :
    ∀ told ∈ instructions.zip outcomes, told.2 = .skipped → told.1.policy = .writeOnce := by
  induction run with
  | nil => simp
  | cons emitted _ ih =>
      simp only [List.zip_cons_cons, List.mem_cons, forall_eq_or_imp]
      refine ⟨?_, ih⟩
      rintro rfl
      exact Instruction.emit_skipped emitted

theorem CarriedOut.length_eq {renderer : Renderer} {dryRun : Bool} {before after : Store}
    {instructions : List Instruction} {outcomes : List Outcome}
    (run : CarriedOut renderer dryRun before instructions outcomes after) :
    outcomes.length = instructions.length := by
  induction run with
  | nil => rfl
  | cons _ _ ih => simp [ih]

theorem emitAll_carriedOut (renderer : Renderer) (dryRun : Bool) (instructions : List Instruction)
    (store : Store) (report : Report) :
    ∃ outcomes,
      CarriedOut renderer dryRun store instructions outcomes
        (emitAll renderer dryRun instructions store report).1 ∧
      (emitAll renderer dryRun instructions store report).2 =
        { written := report.written ++ (Report.tally (instructions.zip outcomes)).written
          skipped := report.skipped ++ (Report.tally (instructions.zip outcomes)).skipped
          failed := report.failed ++ (Report.tally (instructions.zip outcomes)).failed } := by
  induction instructions generalizing store report with
  | nil => exact ⟨[], .nil store, by simp [emitAll, Report.tally]⟩
  | cons instruction rest ih =>
      cases emitted : instruction.emit renderer dryRun store with
      | mk between outcome =>
          obtain ⟨outcomes, run, told⟩ := ih between (report.add instruction.path outcome)
          refine ⟨outcome :: outcomes, ?_, ?_⟩
          · rw [emitAll, emitted]
            exact .cons emitted run
          · -- What the first instruction adds moves from the report so far to the front of the tally.
            rw [emitAll, emitted, List.zip_cons_cons, Report.tally_cons]
            refine told.trans ?_
            cases outcome <;> simp [Report.add, Report.empty]

theorem emitAll_accounts (renderer : Renderer) (dryRun : Bool) (instructions : List Instruction)
    (store : Store) :
    ∃ outcomes,
      CarriedOut renderer dryRun store instructions outcomes
        (emitAll renderer dryRun instructions store .empty).1 ∧
      (emitAll renderer dryRun instructions store .empty).2.Accounts instructions outcomes := by
  obtain ⟨outcomes, run, told⟩ := emitAll_carriedOut renderer dryRun instructions store .empty
  have made : (emitAll renderer dryRun instructions store .empty).2 =
      Report.tally (instructions.zip outcomes) := by
    simpa [Report.empty] using told
  refine ⟨outcomes, run, run.length_eq, made, ?_, run.spared⟩
  rw [made]
  have paths : (instructions.zip outcomes).map (·.1.path) = instructions.map (·.path) := by
    calc (instructions.zip outcomes).map (·.1.path)
        = ((instructions.zip outcomes).map Prod.fst).map (·.path) := (List.map_map ..).symm
      _ = instructions.map (·.path) := by rw [List.map_fst_zip (Nat.le_of_eq run.length_eq.symm)]
  exact paths ▸ Report.tally_perm _

theorem missingTemplate?_eq_none_iff (renderer : Renderer) (instructions : List Instruction) :
    missingTemplate? renderer instructions = none ↔
      ∀ instruction ∈ instructions, renderer.supports instruction.kind = true := by
  simp only [missingTemplate?, List.find?_eq_none, Bool.and_eq_true, List.any_eq_true, beq_iff_eq,
    Bool.not_eq_true', not_and, Bool.not_eq_false, forall_exists_index, and_imp]
  constructor
  · intro all instruction member
    have listed : instruction.kind ∈ ArtifactKind.all := by cases instruction.kind <;> decide
    exact all instruction.kind listed instruction member rfl
  · rintro all _ _ instruction member rfl
    exact all instruction member

def desk : Document :=
  { title := "Desk"
    version := "1"
    operations :=
      [⟨"open", ⟨"POST"⟩, "/", none, [], [], none, .single (.reference "Slip")⟩,
        ⟨"list", ⟨"GET"⟩, "/", none, [], [], none, .void⟩]
    models := [⟨"Slip", none, [], []⟩] }

def queryless : Renderer :=
  ⟨fun _ => true, fun instruction =>
    if instruction.kind == .query then .error "no queries today" else instruction.render⟩

def tended : Store :=
  ⟨[(["out"], .directory), (["out", "generated"], .directory),
    (["out", "generated", "handlers"], .directory),
    (["out", "generated", "handlers", "open_command_handler.rs"], .file "mine".toUTF8)]⟩

end ApiContracts
