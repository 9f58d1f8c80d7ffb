import ApiContracts.Proofs.Emission.Accounting

/-!
An artifact that cannot be rendered is out of the way of all others. It is found to fail before
anything is written for it, so the run goes as if its instruction were not there, and the report has
one more failure.
-/

namespace ApiContracts

def Renderer.renders (renderer : Renderer) (instruction : Instruction) : Bool :=
  (renderer.render instruction).isOk

theorem Renderer.renders_iff {renderer : Renderer} {instruction : Instruction} :
    renderer.renders instruction = true ↔ ∃ text, renderer.render instruction = .ok text := by
  rw [renders]
  cases renderer.render instruction <;> simp [Except.isOk, Except.toBool]

/-- What became of the instructions that can be rendered, with the failures of the others put in,
each where its instruction stands. -/
def withFailures (renderer : Renderer) : List Instruction → List Outcome → List Outcome
  | [], _ => []
  | instruction :: rest, outcomes =>
    match renderer.render instruction with
    | .error reason => .failed reason :: withFailures renderer rest outcomes
    | .ok _ =>
      match outcomes with
      | outcome :: later => outcome :: withFailures renderer rest later
      | [] => []

section

variable {renderer : Renderer} {dryRun : Bool} {instruction : Instruction} {reason text : String}

theorem filter_renders_error (unrendered : renderer.render instruction = .error reason)
    (rest : List Instruction) :
    (instruction :: rest).filter renderer.renders = rest.filter renderer.renders :=
  List.filter_cons_of_neg (by simp [Renderer.renders_iff, unrendered])

theorem filter_renders_ok (rendered : renderer.render instruction = .ok text)
    (rest : List Instruction) :
    (instruction :: rest).filter renderer.renders = instruction :: rest.filter renderer.renders :=
  List.filter_cons_of_pos (Renderer.renders_iff.mpr ⟨text, rendered⟩)

theorem withFailures_error (unrendered : renderer.render instruction = .error reason)
    (rest : List Instruction) (outcomes : List Outcome) :
    withFailures renderer (instruction :: rest) outcomes =
      .failed reason :: withFailures renderer rest outcomes := by
  cases outcomes <;> simp [withFailures, unrendered]

theorem withFailures_ok (rendered : renderer.render instruction = .ok text)
    (rest : List Instruction) (outcome : Outcome) (later : List Outcome) :
    withFailures renderer (instruction :: rest) (outcome :: later) =
      outcome :: withFailures renderer rest later := by
  rw [withFailures, rendered]

theorem Instruction.emit_unrendered (unrendered : renderer.render instruction = .error reason)
    (store : Store) : instruction.emit renderer dryRun store = (store, .failed reason) := by
  rw [emit, unrendered]

namespace CarriedOut

variable {before after : Store} {instructions : List Instruction} {outcomes : List Outcome}

theorem unique {other : Store} {others : List Outcome}
    (first : CarriedOut renderer dryRun before instructions outcomes after)
    (second : CarriedOut renderer dryRun before instructions others other) :
    outcomes = others ∧ after = other := by
  induction first generalizing others with
  | nil =>
      cases second
      exact ⟨rfl, rfl⟩
  | cons emitted _ ih =>
      cases second with
      | cons again later =>
          obtain ⟨rfl, rfl⟩ := Prod.mk.inj (emitted.symm.trans again)
          obtain ⟨rfl, rfl⟩ := ih later
          exact ⟨rfl, rfl⟩

theorem emit_eq (run : CarriedOut renderer dryRun before instructions outcomes after)
    (supported : ∀ instruction ∈ instructions, renderer.supports instruction.kind = true) :
    emit renderer dryRun instructions before =
      (after, .ok (Report.tally (instructions.zip outcomes))) := by
  obtain ⟨others, again, accounts⟩ := emitAll_accounts renderer dryRun instructions before
  obtain ⟨rfl, rfl⟩ := run.unique again
  rw [emit, (missingTemplate?_eq_none_iff renderer instructions).mpr supported,
    ← accounts.report_eq]

theorem withFailures
    (run : CarriedOut renderer dryRun before (instructions.filter renderer.renders) outcomes after) :
    CarriedOut renderer dryRun before instructions
      (withFailures renderer instructions outcomes) after := by
  -- On the instructions: the run itself has no steps for those that cannot be rendered.
  induction instructions generalizing before outcomes with
  | nil =>
      cases run
      exact .nil _
  | cons instruction rest ih =>
      cases render : renderer.render instruction with
      | error reason =>
          rw [filter_renders_error render] at run
          rw [withFailures_error render]
          exact .cons (Instruction.emit_unrendered render before) (ih run)
      | ok text =>
          rw [filter_renders_ok render] at run
          cases run with
          | cons emitted later =>
              rw [withFailures_ok render]
              exact .cons emitted (ih later)

end CarriedOut

end

theorem tally_withFailures {renderer : Renderer} {instructions : List Instruction}
    {outcomes : List Outcome}
    (each : outcomes.length = (instructions.filter renderer.renders).length) :
    (Report.tally (instructions.zip (withFailures renderer instructions outcomes))).written =
        (Report.tally ((instructions.filter renderer.renders).zip outcomes)).written ∧
      (Report.tally (instructions.zip (withFailures renderer instructions outcomes))).skipped =
        (Report.tally ((instructions.filter renderer.renders).zip outcomes)).skipped := by
  induction instructions generalizing outcomes with
  | nil => exact ⟨rfl, rfl⟩
  | cons instruction rest ih =>
      cases render : renderer.render instruction with
      | error reason =>
          rw [filter_renders_error render] at each ⊢
          rw [withFailures_error render, List.zip_cons_cons, Report.tally_cons]
          exact ih each
      | ok text =>
          rw [filter_renders_ok render] at each ⊢
          cases outcomes with
          | nil => simp at each
          | cons outcome later =>
              obtain ⟨written, skipped⟩ := ih (Nat.succ.inj each)
              rw [withFailures_ok render]
              simp only [List.zip_cons_cons, Report.tally_cons, written, skipped, and_self]

/-- Where there is a template for each kind, instructions and those among them that can be rendered
lead to the same tree. The two reports agree on what is written and what is skipped, and that of all
the instructions has the failures of the others at their places. -/
theorem render_failures_spare_others (renderer : Renderer) (dryRun : Bool)
    (instructions : List Instruction) (store : Store)
    (supported : ∀ instruction ∈ instructions, renderer.supports instruction.kind = true) :
    ∃ after outcomes report reduced,
      emit renderer dryRun instructions store = (after, .ok report) ∧
      emit renderer dryRun (instructions.filter renderer.renders) store = (after, .ok reduced) ∧
      report.written = reduced.written ∧ report.skipped = reduced.skipped ∧
      CarriedOut renderer dryRun store (instructions.filter renderer.renders) outcomes after ∧
      reduced = Report.tally ((instructions.filter renderer.renders).zip outcomes) ∧
      report = Report.tally (instructions.zip (withFailures renderer instructions outcomes)) := by
  obtain ⟨outcomes, run, _⟩ :=
    emitAll_accounts renderer dryRun (instructions.filter renderer.renders) store
  obtain ⟨written, skipped⟩ := tally_withFailures run.length_eq
  refine ⟨_, outcomes, _, _, run.withFailures.emit_eq supported, run.emit_eq ?_, written, skipped,
    run, rfl, rfl⟩
  exact fun instruction isKept => supported instruction (List.mem_filter.mp isKept).1

def chores : List Instruction :=
  let layout := Config.standard.layout "out"
  desk.operations.flatMap fun operation =>
    let request := Request.ofOperation operation
    [.ofRequest layout request, .ofHandler layout (Handler.ofRequest request)]

def obstructed : Store :=
  ⟨tended.entries ++ [(["out", "generated", "commands"], .directory),
    (["out", "generated", "commands", "open_command.rs"], .directory)]⟩

theorem chores_spared :
    (∀ instruction ∈ chores, queryless.supports instruction.kind = true) ∧
    ∃ after outcomes report reduced,
      emit queryless false chores obstructed = (after, .ok report) ∧
      emit queryless false (chores.filter queryless.renders) obstructed = (after, .ok reduced) ∧
      report.written = reduced.written ∧ report.skipped = reduced.skipped ∧
      CarriedOut queryless false obstructed (chores.filter queryless.renders) outcomes after ∧
      reduced = Report.tally ((chores.filter queryless.renders).zip outcomes) ∧
      report = Report.tally (chores.zip (withFailures queryless chores outcomes)) ∧
      report.written = ["out/generated/handlers/list_query_handler.rs"] ∧
      report.skipped = ["out/generated/handlers/open_command_handler.rs"] ∧
      report.failed = [("out/generated/commands/open_command.rs", "Is a directory (os error 21)"),
        ("out/generated/queries/list_query.rs", "no queries today")] ∧
      reduced.failed = [("out/generated/commands/open_command.rs",
        "Is a directory (os error 21)")] := by
  have supported : ∀ instruction ∈ chores, queryless.supports instruction.kind = true :=
    fun _ _ => rfl
  have lists : (emit queryless false chores obstructed).2.map
      (fun report => (report.written, report.skipped, report.failed)) =
        .ok (["out/generated/handlers/list_query_handler.rs"],
          ["out/generated/handlers/open_command_handler.rs"],
          [("out/generated/commands/open_command.rs", "Is a directory (os error 21)"),
            ("out/generated/queries/list_query.rs", "no queries today")]) := by
    decide +kernel
  have fewer : (emit queryless false (chores.filter queryless.renders) obstructed).2.map
      (·.failed) =
        .ok [("out/generated/commands/open_command.rs", "Is a directory (os error 21)")] := by
    decide +kernel
  obtain ⟨after, outcomes, report, reduced, emitted, kept, written, skipped, run, told, all⟩ :=
    render_failures_spare_others queryless false chores obstructed supported
  simp only [emitted, kept, Except.map, Except.ok.injEq, Prod.mk.injEq] at lists fewer
  exact ⟨supported, after, outcomes, report, reduced, emitted, kept, written, skipped, run, told,
    all, lists.1, lists.2.1, lists.2.2, fewer⟩

end ApiContracts
