import ApiContracts.Proofs.Emission.Changes
import Mathlib.Data.List.Pairwise

/-!
What a dry run foretells. It looks at the tree as it is before the run, and the run that writes
looks at what it has made of the tree by then. For files that are apart from each other the two
agree unless a path leads to its place only by what the run makes.
-/

namespace ApiContracts

open Store

def renderFailures (renderer : Renderer) (instructions : List Instruction) :
    List (String × String) :=
  instructions.filterMap fun instruction =>
    match renderer.render instruction with
    | .error reason => some (instruction.path, reason)
    | .ok _ => none

theorem renderFailures_error {renderer : Renderer} {instruction : Instruction} {reason : String}
    (unrendered : renderer.render instruction = .error reason) (rest : List Instruction) :
    renderFailures renderer (instruction :: rest) =
      (instruction.path, reason) :: renderFailures renderer rest := by
  simp [renderFailures, unrendered]

theorem renderFailures_ok {renderer : Renderer} {instruction : Instruction} {text : String}
    (rendered : renderer.render instruction = .ok text) (rest : List Instruction) :
    renderFailures renderer (instruction :: rest) = renderFailures renderer rest := by
  simp [renderFailures, rendered]

namespace CarriedOut

variable {renderer : Renderer} {dryRun : Bool} {before after : Store}
  {instructions : List Instruction} {outcomes : List Outcome}

theorem emitted (run : CarriedOut renderer dryRun before instructions outcomes after) :
    ∀ told ∈ instructions.zip outcomes,
      ∃ earlier later, told.1.emit renderer dryRun earlier = (later, told.2) := by
  induction run with
  | nil => simp
  | @cons before between after instruction outcome rest outcomes emitted _ ih =>
      rw [List.zip_cons_cons, List.forall_mem_cons]
      exact ⟨⟨before, between, emitted⟩, ih⟩

theorem renderFailures_length_le
    (run : CarriedOut renderer dryRun before instructions outcomes after) :
    (renderFailures renderer instructions).length ≤
      (Report.tally (instructions.zip outcomes)).failed.length := by
  induction run with
  | nil => exact Nat.le_refl _
  | @cons before between after instruction outcome rest outcomes emitted _ ih =>
      rw [List.zip_cons_cons, Report.tally_cons, List.length_append]
      cases render : renderer.render instruction with
      | error reason =>
          rw [Instruction.emit_unrendered render] at emitted
          obtain ⟨_, rfl⟩ := Prod.mk.inj emitted
          rw [renderFailures_error render, List.length_cons]
          simp only [Report.add, Report.empty, List.nil_append, List.length_singleton]
          omega
      | ok text =>
          rw [renderFailures_ok render]
          omega

theorem spared_of_failed (run : CarriedOut renderer dryRun before instructions outcomes after)
    (only : (Report.tally (instructions.zip outcomes)).failed =
      renderFailures renderer instructions) :
    ∀ told ∈ instructions.zip outcomes, told.1.Spared renderer told.2 := by
  induction run with
  | nil => simp
  | @cons before between after instruction outcome rest outcomes emitted later ih =>
      rw [List.zip_cons_cons, Report.tally_cons] at only
      rw [List.zip_cons_cons, List.forall_mem_cons]
      cases render : renderer.render instruction with
      | error reason =>
          rw [Instruction.emit_unrendered render] at emitted
          obtain ⟨_, rfl⟩ := Prod.mk.inj emitted
          rw [renderFailures_error render] at only
          refine ⟨?_, ih (List.cons.inj only).2⟩
          intro renders
          obtain ⟨text, rendered⟩ := Renderer.renders_iff.mp renders
          simp [render] at rendered
      | ok text =>
          rw [renderFailures_ok render] at only
          cases outcome with
          | written => exact ⟨fun _ _ => nofun, ih only⟩
          | skipped => exact ⟨fun _ _ => nofun, ih only⟩
          | failed reason =>
              -- One failure more than there is to render, and those that are left are in the rest.
              have fewer := later.renderFailures_length_le
              have more : (Report.tally (rest.zip outcomes)).failed.length + 1 =
                  (renderFailures renderer rest).length := by
                rw [← only]
                simp only [Report.add, Report.empty, List.nil_append, List.singleton_append,
                  List.length_cons]
              omega

end CarriedOut

/-- What a dry run says about an instruction. -/
def Instruction.foretold (renderer : Renderer) (store : Store) (instruction : Instruction) :
    Outcome :=
  (instruction.emit renderer true store).2

theorem dry_carriedOut (renderer : Renderer) (instructions : List Instruction) (store : Store) :
    CarriedOut renderer true store instructions
      (instructions.map (·.foretold renderer store)) store := by
  induction instructions with
  | nil => exact .nil store
  | cons instruction rest ih =>
      exact .cons (Prod.ext (instruction.emit_dry renderer store) rfl) ih

theorem emit_eq_ok {renderer : Renderer} {dryRun : Bool} {instructions : List Instruction}
    {before after : Store} {report : Report}
    (done : emit renderer dryRun instructions before = (after, .ok report)) :
    (∀ instruction ∈ instructions, renderer.supports instruction.kind = true) ∧
      ∃ outcomes, CarriedOut renderer dryRun before instructions outcomes after ∧
        report = Report.tally (instructions.zip outcomes) := by
  obtain ⟨outcomes, run, accounts⟩ := emitAll_accounts renderer dryRun instructions before
  rw [emit] at done
  split at done
  next => simp at done
  next supported =>
      simp only [Prod.mk.injEq, Except.ok.injEq] at done
      obtain ⟨rfl, rfl⟩ := done
      exact ⟨(missingTemplate?_eq_none_iff _ _).mp supported, outcomes, run, accounts.report_eq⟩

theorem emit_error_iff (renderer : Renderer) (instructions : List Instruction) (store : Store)
    (error : GenerationError) :
    (emit renderer true instructions store).2 = .error error ↔
      (emit renderer false instructions store).2 = .error error := by
  cases missing : missingTemplate? renderer instructions with
  | some kind => simp [emit, missing]
  | none => simp [emit, missing]

theorem foretold_skipped {renderer : Renderer} {store : Store} {instruction : Instruction}
    (skipped : instruction.foretold renderer store = .skipped) :
    store.has instruction.path = true := by
  rw [Instruction.foretold, Instruction.emit] at skipped
  split at skipped
  next => simp at skipped
  next =>
      rw [if_pos rfl, Instruction.foresee] at skipped
      split at skipped
      next =>
          by_contra missing
          simp [missing] at skipped
      next => simp at skipped

theorem dry_failed (renderer : Renderer) (store : Store) (instructions : List Instruction) :
    (Report.tally (instructions.zip (instructions.map (·.foretold renderer store)))).failed =
      renderFailures renderer instructions := by
  induction instructions with
  | nil => rfl
  | cons instruction rest ih =>
      rw [List.map_cons, List.zip_cons_cons, Report.tally_cons]
      cases render : renderer.render instruction with
      | error reason =>
          have failed : instruction.foretold renderer store = .failed reason := by
            rw [Instruction.foretold, Instruction.emit_unrendered render]
          rw [renderFailures_error render, failed]
          simp [Report.add, Report.empty, ih]
      | ok text =>
          have foresees : instruction.foretold renderer store = instruction.foresee store := by
            simp [Instruction.foretold, Instruction.emit, render]
          rw [renderFailures_ok render, foresees, Instruction.foresee]
          cases instruction.policy with
          | always => exact ih
          | writeOnce =>
              dsimp only
              split <;> exact ih

theorem mem_tally_skipped {told : List (Instruction × Outcome)} {path : String} :
    path ∈ (Report.tally told).skipped ↔
      ∃ one ∈ told, one.2 = .skipped ∧ one.1.path = path := by
  simp [Report.tally, and_assoc]

theorem eq_map_of_zip {instructions : List Instruction} {outcomes : List Outcome}
    {outcome : Instruction → Outcome} (each : outcomes.length = instructions.length)
    (same : ∀ told ∈ instructions.zip outcomes, outcome told.1 = told.2) :
    instructions.map outcome = outcomes := by
  calc instructions.map outcome
      = ((instructions.zip outcomes).map Prod.fst).map outcome := by
        rw [List.map_fst_zip (Nat.le_of_eq each.symm)]
    _ = (instructions.zip outcomes).map (fun told => outcome told.1) := List.map_map ..
    _ = (instructions.zip outcomes).map Prod.snd := List.map_congr_left same
    _ = outcomes := List.map_snd_zip (Nat.le_of_eq each)

namespace CarriedOut

variable {renderer : Renderer} {before after : Store} {instructions : List Instruction}
  {outcomes : List Outcome}

theorem foretold_iff (run : CarriedOut renderer false before instructions outcomes after)
    (different : instructions.Pairwise (·.place ≠ ·.place)) :
    ∀ told ∈ instructions.zip outcomes, told.1.Spared renderer told.2 →
      (told.1.foretold renderer before = told.2 ↔
        (told.2 = .skipped → before.has told.1.path = true)) := by
  rintro ⟨instruction, outcome⟩ member spared
  obtain ⟨earlier, later, emitted⟩ := run.emitted _ member
  dsimp only at emitted spared ⊢
  cases render : renderer.render instruction with
  | error reason =>
      rw [Instruction.emit_unrendered render] at emitted
      obtain ⟨_, rfl⟩ := Prod.mk.inj emitted
      simp [Instruction.foretold, Instruction.emit_unrendered render]
  | ok text =>
      have renders := Renderer.renders_iff.mpr ⟨text, render⟩
      have kept := spared renders
      have skips := run.skipped_iff different _ member renders
      have once := run.spared _ member
      simp only [Instruction.foretold, Instruction.emit, render, if_true, Instruction.foresee]
      dsimp only at skips once
      cases policy : instruction.policy with
      | always =>
          cases outcome with
          | written => simp
          | skipped => simp [policy] at once
          | failed reason => exact absurd rfl (kept reason)
      | writeOnce =>
          cases found : before.has instruction.path with
          | true =>
              obtain ⟨place, entry, resolved, held⟩ := (has_iff _ _).mp found
              have same : instruction.place = place := resolve_eq_ok resolved
              have skipped : outcome = .skipped := by
                rw [skips policy spared, same]
                simp [held]
              simp [skipped]
          | false =>
              cases outcome with
              | written => simp
              | skipped => simp
              | failed reason => exact absurd rfl (kept reason)

theorem report_eq_iff (run : CarriedOut renderer false before instructions outcomes after)
    (different : instructions.Pairwise (·.place ≠ ·.place))
    (spared : ∀ told ∈ instructions.zip outcomes, told.1.Spared renderer told.2) :
    Report.tally (instructions.zip (instructions.map (·.foretold renderer before))) =
        Report.tally (instructions.zip outcomes) ↔
      ∀ path ∈ (Report.tally (instructions.zip outcomes)).skipped, before.has path = true := by
  constructor
  · intro same path skipped
    rw [← same, mem_tally_skipped] at skipped
    obtain ⟨⟨instruction, outcome⟩, member, isSkipped, rfl⟩ := skipped
    rw [← List.map_prod_left_eq_zip, List.mem_map] at member
    obtain ⟨listed, _, made⟩ := member
    obtain ⟨rfl, rfl⟩ := Prod.mk.inj made
    exact foretold_skipped isSkipped
  · intro there
    rw [eq_map_of_zip run.length_eq]
    intro told member
    rw [run.foretold_iff different told member (spared told member)]
    intro skipped
    exact there _ (mem_tally_skipped.mpr ⟨told, member, skipped, rfl⟩)

theorem has_of_skipped (run : CarriedOut renderer false before instructions outcomes after)
    (apart : instructions.Pairwise fun first second => first.place.Apart second.place)
    (tree : before.IsTree) (climbs : ∀ instruction ∈ instructions, before.Climbs instruction.path)
    {told : Instruction × Outcome} (member : told ∈ instructions.zip outcomes)
    (skipped : told.2 = .skipped) : before.has told.1.path = true := by
  obtain ⟨instruction, outcome⟩ := told
  obtain rfl : outcome = .skipped := skipped
  have listed := (List.of_mem_zip member).1
  have renders : renderer.renders instruction = true := by
    obtain ⟨earlier, later, emitted⟩ := run.emitted _ member
    cases render : renderer.render instruction with
    | error reason =>
        rw [Instruction.emit_unrendered render] at emitted
        simp at emitted
    | ok text => exact Renderer.renders_iff.mpr ⟨text, render⟩
  have spared : instruction.Spared renderer .skipped := fun _ _ => nofun
  have different := apart.imp Place.Apart.different
  have found := (run.skipped_iff different _ member renders (run.spared _ member rfl) spared).mp rfl
  have reached := run.reaches _ member renders spared
  -- A directory cannot have been made there: it would be over the file of an instruction.
  have taken : before.held? instruction.place ≠ none := by
    intro free
    rcases found with held | there
    · exact held free
    · obtain ⟨maker, making, onWay⟩ := run.made_onWay free there
      have isOver := (climbs maker making).over_destination tree onWay free
      by_cases itself : instruction = maker
      · subst itself
        have noDirectory : before.held? instruction.place ≠ some .directory := by simp [free]
        exact Place.not_over_self (not_isFixed noDirectory) isOver
      · have symmetric : Std.Symm fun first second : Instruction =>
            first.place.Apart second.place := ⟨fun _ _ => Place.Apart.symm⟩
        exact (apart.forall listed making itself).notOver isOver
  obtain ⟨entry, held⟩ := Option.ne_none_iff_exists'.mp taken
  have resolved := (climbs instruction listed).resolve tree run.keepsShape reached taken
  exact (has_iff _ _).mpr ⟨_, entry, resolved, held⟩

end CarriedOut

/-- A dry run foretells. It changes nothing and stops just where the run that writes does. For
files that are apart from each other, if that run has only the failures of what cannot be rendered,
the dry run has the same failures, and it has the same report just if each path that the run skips
leads to something before. In a tree in which the paths go upwards only from directories that are
there this is so. -/
theorem dryRun_foretells (renderer : Renderer) (instructions : List Instruction)
    (before : Store) :
    (emit renderer true instructions before).1 = before ∧
      (∀ error, (emit renderer true instructions before).2 = .error error ↔
        (emit renderer false instructions before).2 = .error error) ∧
      ∀ (after : Store) (report : Report),
        (instructions.Pairwise fun first second => first.place.Apart second.place) →
        emit renderer false instructions before = (after, .ok report) →
        report.failed = renderFailures renderer instructions →
          ∃ foretold, emit renderer true instructions before = (before, .ok foretold) ∧
            foretold.failed = report.failed ∧
            (foretold = report ↔ ∀ path ∈ report.skipped, before.has path = true) ∧
            (before.IsTree → (∀ instruction ∈ instructions, before.Climbs instruction.path) →
              foretold = report) := by
  refine ⟨emit_dry _ _ _, emit_error_iff renderer instructions before, ?_⟩
  intro after report apart done only
  obtain ⟨supported, outcomes, run, rfl⟩ := emit_eq_ok done
  have dry := (dry_carriedOut renderer instructions before).emit_eq supported
  have spared := run.spared_of_failed only
  have same := run.report_eq_iff (apart.imp Place.Apart.different) spared
  refine ⟨_, dry, (dry_failed _ _ _).trans only.symm, same, ?_⟩
  intro tree climbs
  rw [same]
  intro path skipped
  obtain ⟨told, member, isSkipped, rfl⟩ := mem_tally_skipped.mp skipped
  exact run.has_of_skipped apart tree climbs member isSkipped

theorem pairwise_apart {instructions : List Instruction}
    (moving : ∀ path ∈ instructions.map (·.path), (destination path).isFixed = false)
    (separate : (instructions.map (·.path)).Pairwise fun first second =>
      ¬destination first <+: destination second ∧ ¬destination second <+: destination first) :
    instructions.Pairwise fun first second => first.place.Apart second.place := by
  rw [List.forall_mem_map] at moving
  apply (List.pairwise_map.mp separate).imp_of_mem
  intro first second isFirst isSecond either
  exact Place.apart_of_begins (moving first isFirst) (moving second isSecond) either.1 either.2

theorem chores_foretold :
    (chores.Pairwise fun first second => first.place.Apart second.place) ∧ tended.IsTree ∧
      (∀ instruction ∈ chores, tended.Climbs instruction.path) ∧
      ∃ after report, emit queryless false chores tended = (after, .ok report) ∧
        report.failed = renderFailures queryless chores ∧
        report.skipped = ["out/generated/handlers/open_command_handler.rs"] ∧
        emit queryless true chores tended = (tended, .ok report) := by
  have paths : chores.map (·.path) =
      ["out/generated/commands/open_command.rs", "out/generated/handlers/open_command_handler.rs",
        "out/generated/queries/list_query.rs", "out/generated/handlers/list_query_handler.rs"] := by
    decide +kernel
  have apart : chores.Pairwise fun first second => first.place.Apart second.place := by
    apply pairwise_apart <;> rw [paths] <;> decide +kernel
  have tree : tended.IsTree := by decide +kernel
  have level : ∀ path ∈ chores.map (·.path), ['.', '.'] ∉ Path.pieces path := by
    rw [paths]
    decide +kernel
  have climbs : ∀ instruction ∈ chores, tended.Climbs instruction.path :=
    fun instruction member => climbs_of_level tended (level _ (List.mem_map_of_mem member))
  have lists : (emit queryless false chores tended).2.map
      (fun report => (report.skipped, report.failed)) =
        .ok (["out/generated/handlers/open_command_handler.rs"],
          renderFailures queryless chores) := by
    decide +kernel
  cases done : emit queryless false chores tended with
  | mk after result =>
      cases result with
      | error error => simp [done, Except.map] at lists
      | ok report =>
          simp only [done, Except.map, Except.ok.injEq, Prod.mk.injEq] at lists
          obtain ⟨foretold, dry, _, _, same⟩ :=
            (dryRun_foretells queryless chores tended).2.2 after report apart done lists.2
          obtain rfl := same tree climbs
          exact ⟨apart, tree, climbs, after, foretold, rfl, lists.2, lists.1, dry⟩

def detour : List Instruction :=
  let layout := Config.standard.layout "fresh/.."
  let request := Request.ofOperation ⟨"open", ⟨"POST"⟩, "/", none, [], [], none, .void⟩
  [.ofRequest layout request, .ofHandler layout (Handler.ofRequest request)]

def furnished : Store :=
  ⟨[(["generated"], .directory), (["generated", "handlers"], .directory),
    (["generated", "handlers", "open_command_handler.rs"], .file "mine".toUTF8)]⟩

/-- The run that writes makes the folder first and then finds the handler through it. -/
theorem detour_not_foretold :
    (detour.Pairwise fun first second => first.place.Apart second.place) ∧ furnished.IsTree ∧
      (∀ instruction ∈ detour, ¬furnished.Climbs instruction.path) ∧
      ∃ after report foretold, emit .bundled false detour furnished = (after, .ok report) ∧
        report.failed = [] ∧
        emit .bundled true detour furnished = (furnished, .ok foretold) ∧
        report.skipped = ["fresh/../generated/handlers/open_command_handler.rs"] ∧
        foretold.skipped = [] := by
  have paths : detour.map (·.path) =
      ["fresh/../generated/commands/open_command.rs",
        "fresh/../generated/handlers/open_command_handler.rs"] := by
    decide +kernel
  have apart : detour.Pairwise fun first second => first.place.Apart second.place := by
    apply pairwise_apart <;> rw [paths] <;> decide +kernel
  have tree : furnished.IsTree := by decide +kernel
  have climbsNot : ∀ instruction ∈ detour, ¬furnished.Climbs instruction.path := by
    rw [← List.forall_mem_map (P := fun path => ¬furnished.Climbs path), paths]
    decide +kernel
  have real : (emit .bundled false detour furnished).2.map
      (fun report => (report.failed, report.skipped)) =
        .ok ([], ["fresh/../generated/handlers/open_command_handler.rs"]) := by
    decide +kernel
  have dry : (emit .bundled true detour furnished).2.map (·.skipped) = .ok [] := by
    decide +kernel
  have same := emit_dry .bundled detour furnished
  cases done : emit .bundled false detour furnished with
  | mk after result =>
      cases looked : emit .bundled true detour furnished with
      | mk unchanged foreseen =>
          rw [done] at real
          rw [looked] at dry same
          obtain rfl : unchanged = furnished := same
          cases result with
          | error error => simp [Except.map] at real
          | ok report =>
              cases foreseen with
              | error error => simp [Except.map] at dry
              | ok foretold =>
                  simp only [Except.map, Except.ok.injEq, Prod.mk.injEq] at real dry
                  exact ⟨apart, tree, climbsNot, after, report, foretold, rfl, real.1, rfl, real.2, dry⟩

end ApiContracts
