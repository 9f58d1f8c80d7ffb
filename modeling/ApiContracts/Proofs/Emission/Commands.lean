import ApiContracts.Proofs.Emission.Rerun

/-!
What a command does to a tree. Everything that ends a command without a result comes before the
first file, so the tree is then as it was; listing a plan and dry runs leave it as it was in any
case. A command that generates is complete just if every instruction of its plan, when its turn
came, got its file or found one that it is not to replace.
-/

namespace ApiContracts

namespace Instruction

/-- The text is in the file of the instruction or, if that is only written once, something is at
its path. -/
def InPlace (instruction : Instruction) (text : String) (store : Store) : Prop :=
  store.lookup instruction.path = .ok (.file text.toUTF8) ∨
    instruction.policy = .writeOnce ∧ store.has instruction.path = true

theorem write_always_outcome {instruction : Instruction} (always : instruction.policy = .always)
    (text : String) (store : Store) :
    ((instruction.write text store).2 = .written ∨ (instruction.write text store).2 = .skipped) ↔
      (store.inParent instruction.path (·.write instruction.path text.toUTF8)).2 = .ok () := by
  cases written : store.inParent instruction.path (·.write instruction.path text.toUTF8) with
  | mk after outcome =>
      cases outcome <;> simp only [write, always, written, reduceCtorEq, or_self, true_or]

theorem write_writeOnce_outcome {instruction : Instruction}
    (once : instruction.policy = .writeOnce) {text : String} {store made : Store}
    (ready : store.makeParent instruction.path = (made, .ok ())) :
    ((instruction.write text store).2 = .written ∨ (instruction.write text store).2 = .skipped) ↔
      ((made.create instruction.path text.toUTF8).2 = .ok () ∨
        (made.create instruction.path text.toUTF8).2 = .error .exists) := by
  cases created : made.create instruction.path text.toUTF8 with
  | mk after outcome =>
      cases outcome with
      | ok => simp only [write, once, ready, created, true_or]
      | error fault =>
          cases fault <;>
            simp only [write, once, ready, created, reduceCtorEq, Except.error.injEq, or_self,
              or_true]

theorem write_inPlace_iff (instruction : Instruction) (text : String) (store : Store) :
    ((instruction.write text store).2 = .written ∨ (instruction.write text store).2 = .skipped) ↔
      instruction.InPlace text (instruction.write text store).1 := by
  cases policy : instruction.policy with
  | always =>
      rw [write_always_outcome policy, Store.inParent_write_ok_iff, InPlace, write_always policy]
      simp [policy]
  | writeOnce =>
      have inPlace_iff (after : Store) : instruction.InPlace text after ↔
          after.has instruction.path = true := by
        rw [InPlace, policy]
        exact ⟨fun held => held.elim Store.has_of_lookup (·.2), fun there => .inr ⟨rfl, there⟩⟩
      rw [inPlace_iff, write_writeOnce policy, Store.inParent]
      cases ready : store.makeParent instruction.path with
      | mk made outcome =>
          cases outcome with
          | error fault =>
              have failed : (instruction.write text store).2 = .failed fault.message := by
                simp only [write, policy, ready]
              have nowhere : ¬made.has instruction.path = true := by
                rw [Store.has_iff]
                rintro ⟨place, _, resolved, _⟩
                exact Store.makeParent_failed ready place resolved
              simp [failed, nowhere]
          | ok =>
              rw [write_writeOnce_outcome policy ready]
              exact made.create_ok_or_exists_iff _ _

theorem emit_dry (renderer : Renderer) (instruction : Instruction) (store : Store) :
    (instruction.emit renderer true store).1 = store := by
  rw [emit]
  split <;> rfl

def Succeeds (renderer : Renderer) (dryRun : Bool) (instruction : Instruction) (turn : Store) :
    Prop :=
  (instruction.emit renderer dryRun turn).2 = .written ∨
    (instruction.emit renderer dryRun turn).2 = .skipped

theorem succeeds_iff (renderer : Renderer) (instruction : Instruction) (turn : Store) :
    instruction.Succeeds renderer false turn ↔ ∃ text, renderer.render instruction = .ok text ∧
      instruction.InPlace text (instruction.emit renderer false turn).1 := by
  rw [Succeeds, emit]
  cases renderer.render instruction with
  | error reason => simp
  | ok text =>
      simp only [Bool.false_eq_true, ↓reduceIte, Except.ok.injEq, exists_eq_left']
      exact instruction.write_inPlace_iff text turn

end Instruction

theorem Report.failed_add_nil_iff (report : Report) (path : String) (outcome : Outcome) :
    (report.add path outcome).failed = [] ↔
      report.failed = [] ∧ (outcome = .written ∨ outcome = .skipped) := by
  cases outcome <;> simp [Report.add]

theorem emitAll_dry (renderer : Renderer) (instructions : List Instruction) (store : Store)
    (report : Report) : (emitAll renderer true instructions store report).1 = store := by
  rw [emitAll_store]
  induction instructions with
  | nil => rfl
  | cons instruction rest ih =>
      rw [List.foldl_cons, instruction.emit_dry]
      exact ih

theorem emitAll_snoc (renderer : Renderer) (dryRun : Bool) (front : List Instruction)
    (instruction : Instruction) (store : Store) :
    (emitAll renderer dryRun (front ++ [instruction]) store .empty).1 =
      (instruction.emit renderer dryRun (emitAll renderer dryRun front store .empty).1).1 := by
  simp only [emitAll_store, List.foldl_append, List.foldl_cons, List.foldl_nil]

theorem emitAll_failed_nil_iff (renderer : Renderer) (dryRun : Bool)
    (instructions : List Instruction) (store : Store) (report : Report) :
    (emitAll renderer dryRun instructions store report).2.failed = [] ↔ report.failed = [] ∧
      ∀ front instruction back, instructions = front ++ instruction :: back →
        instruction.Succeeds renderer dryRun (emitAll renderer dryRun front store .empty).1 := by
  induction instructions generalizing store report with
  | nil => simp [emitAll]
  | cons first rest ih =>
      rw [emitAll, ih, Report.failed_add_nil_iff]
      have behind (front : List Instruction) :
          (emitAll renderer dryRun (first :: front) store .empty).1 =
            (emitAll renderer dryRun front (first.emit renderer dryRun store).1 .empty).1 := by
        simp only [emitAll_store, List.foldl_cons]
      constructor
      · rintro ⟨⟨clean, here⟩, later⟩
        refine ⟨clean, ?_⟩
        intro front instruction back split
        cases front with
        | nil =>
            obtain ⟨rfl, rfl⟩ := List.cons_eq_cons.mp split
            exact here
        | cons other front =>
            obtain ⟨rfl, rfl⟩ := List.cons_eq_cons.mp split
            rw [behind]
            exact later front instruction back rfl
      · rintro ⟨clean, all⟩
        refine ⟨⟨clean, all [] first rest rfl⟩, ?_⟩
        rintro front instruction back rfl
        rw [← behind]
        exact all (first :: front) instruction back rfl

theorem emit_error {renderer : Renderer} {dryRun : Bool} {instructions : List Instruction}
    {store : Store} {error : GenerationError}
    (failed : (emit renderer dryRun instructions store).2 = .error error) :
    (emit renderer dryRun instructions store).1 = store := by
  rw [emit] at failed ⊢
  split
  next => rfl
  next complete => simp [complete] at failed

theorem emit_dry (renderer : Renderer) (instructions : List Instruction) (store : Store) :
    (emit renderer true instructions store).1 = store := by
  rw [emit]
  split
  · rfl
  · exact emitAll_dry _ _ _ _

theorem generate_error {renderer : Renderer} {document : Document} {config : Config}
    {output : String} {dryRun : Bool} {store : Store} {error : GenerationError}
    (failed : (generate renderer document config output dryRun store).2 = .error error) :
    (generate renderer document config output dryRun store).1 = store := by
  rw [generate] at failed ⊢
  split
  next => rfl
  next instructions planned =>
      rw [planned] at failed
      exact emit_error failed

theorem generate_dry (renderer : Renderer) (document : Document) (config : Config)
    (output : String) (store : Store) :
    (generate renderer document config output true store).1 = store := by
  rw [generate]
  split
  · rfl
  · exact emit_dry _ _ _

namespace Command

def looksOnly : Command → Bool
  | .generate _ _ _ _ dryRun => dryRun
  | .inspect .. => true

theorem run_generate {store : Store} {spec output : String} {given : Option String}
    {overrides : Overrides} {dryRun : Bool} {document : Document} {config : Config}
    (read : inputs store spec given = .ok (document, config)) :
    (Command.generate spec output given overrides dryRun).run store =
      ((ApiContracts.generate .bundled document (config.withOverrides overrides) output dryRun
          store).1,
        ((ApiContracts.generate .bundled document (config.withOverrides overrides) output dryRun
          store).2.map fun report => ⟨!report.hasFailures, ""⟩).mapError .generation) := by
  rw [run, read]
  dsimp only
  split
  next after report made => simp [made, Except.map, Except.mapError]
  next after error made => simp [made, Except.map, Except.mapError]

theorem run_generate_unread {store : Store} {spec output : String} {given : Option String}
    {overrides : Overrides} {dryRun : Bool} {error : RunError}
    (unread : inputs store spec given = .error error) :
    (Command.generate spec output given overrides dryRun).run store = (store, .error error) := by
  rw [run, unread]

theorem run_inspect (store : Store) (spec output : String) (given : Option String)
    (format : ListingFormat) : ((Command.inspect spec output given format).run store).1 = store := by
  rw [run]
  split
  · rfl
  · dsimp only
    split <;> rfl

theorem run_error {store : Store} {command : Command} {error : RunError}
    (failed : (command.run store).2 = .error error) : (command.run store).1 = store := by
  cases command with
  | inspect spec output given format => exact run_inspect store spec output given format
  | generate spec output given overrides dryRun =>
      cases read : inputs store spec given with
      | error error => rw [run_generate_unread read]
      | ok found =>
          obtain ⟨document, config⟩ := found
          rw [run_generate read] at failed ⊢
          cases made : (ApiContracts.generate .bundled document (config.withOverrides overrides)
              output dryRun store).2 with
          | ok report => simp [made, Except.map, Except.mapError] at failed
          | error error => exact generate_error made

theorem run_looksOnly {store : Store} {command : Command} (only : command.looksOnly = true) :
    (command.run store).1 = store := by
  cases command with
  | inspect spec output given format => exact run_inspect store spec output given format
  | generate spec output given overrides dryRun =>
      obtain rfl : dryRun = true := only
      cases read : inputs store spec given with
      | error error => rw [run_generate_unread read]
      | ok found =>
          rw [run_generate read]
          exact generate_dry _ _ _ _ _

theorem run_generate_ok {store : Store} {spec output : String} {given : Option String}
    {overrides : Overrides} {dryRun : Bool} {result : RunResult}
    (ended : ((Command.generate spec output given overrides dryRun).run store).2 = .ok result) :
    ∃ document config instructions, inputs store spec given = .ok (document, config) ∧
      document.instructions (config.withOverrides overrides) output = .ok instructions ∧
      (result.complete = true ↔
        (emitAll .bundled dryRun instructions store .empty).2.failed = []) := by
  cases read : inputs store spec given with
  | error error =>
      rw [run_generate_unread read] at ended
      simp at ended
  | ok found =>
      obtain ⟨document, config⟩ := found
      rw [run_generate read] at ended
      cases planned : document.instructions (config.withOverrides overrides) output with
      | error error => simp [ApiContracts.generate, planned, Except.map, Except.mapError] at ended
      | ok instructions =>
          have listed : Run.instructions
              ⟨document, config.withOverrides overrides, output, dryRun⟩ = .ok instructions :=
            planned
          have made := Run.result_eq listed store
          rw [Run.result] at made
          simp only [made, Except.map, Except.mapError, Except.ok.injEq] at ended
          subst ended
          refine ⟨document, config, instructions, rfl, planned, ?_⟩
          simp [Report.hasFailures]

/-- A command that ends with an error leaves the tree as it was, and so does, whatever comes of
it, one that lists a plan or that is a dry run. A command that generates is complete just if every
instruction of its plan is written or skipped in its turn; unless it is a dry run, this means that
after its turn the text of the instruction is in its file, or that something is there that is not
to be replaced. -/
theorem run_outcome (store : Store) (command : Command) :
    (∀ error, (command.run store).2 = .error error → (command.run store).1 = store) ∧
      (command.looksOnly = true → (command.run store).1 = store) ∧
      ∀ spec output given overrides dryRun result,
        command = .generate spec output given overrides dryRun →
        (command.run store).2 = .ok result →
        ∃ document config instructions, inputs store spec given = .ok (document, config) ∧
          document.instructions (config.withOverrides overrides) output = .ok instructions ∧
          (result.complete = true ↔ ∀ front instruction back,
            instructions = front ++ instruction :: back →
            instruction.Succeeds .bundled dryRun
              (emitAll .bundled dryRun front store .empty).1) ∧
          (dryRun = false → (result.complete = true ↔ ∀ front instruction back,
            instructions = front ++ instruction :: back →
            ∃ text, instruction.render = .ok text ∧ instruction.InPlace text
              (emitAll .bundled false (front ++ [instruction]) store .empty).1)) := by
  refine ⟨fun error => run_error, run_looksOnly, ?_⟩
  rintro spec output given overrides dryRun result rfl ended
  obtain ⟨document, config, instructions, read, planned, complete⟩ := run_generate_ok ended
  have inTurn : result.complete = true ↔ ∀ front instruction back,
      instructions = front ++ instruction :: back →
      instruction.Succeeds .bundled dryRun (emitAll .bundled dryRun front store .empty).1 := by
    rw [complete, emitAll_failed_nil_iff]
    exact and_iff_right rfl
  refine ⟨document, config, instructions, read, planned, inTurn, ?_⟩
  rintro rfl
  simp only [emitAll_snoc, inTurn, Instruction.succeeds_iff]
  rfl

def market : Store :=
  ⟨[(["market.yaml"], .file (
    "openapi: 3.0.0\n" ++
    "info:\n" ++
    "  title: Market\n" ++
    "  version: v1\n" ++
    "paths:\n" ++
    "  /pets:\n" ++
    "    post:\n" ++
    "      operationId: addPet\n").toUTF8)]⟩

def marketCommand (config : Option String) (dryRun : Bool) : Command :=
  .generate "market.yaml" "out" config ⟨false, false, false⟩ dryRun

theorem market_outcome :
    (∃ error, ((marketCommand (some "market.toml") false).run market).2 = .error error) ∧
      ((marketCommand (some "market.toml") false).run market).1 = market ∧
      ((marketCommand none true).run market).1 = market ∧
      ∃ document config instructions, inputs market "market.yaml" none = .ok (document, config) ∧
        document.instructions (config.withOverrides ⟨false, false, false⟩) "out" =
          .ok instructions ∧
        ∀ front instruction back, instructions = front ++ instruction :: back →
          ∃ text, instruction.render = .ok text ∧ instruction.InPlace text
            (emitAll .bundled false (front ++ [instruction]) market .empty).1 := by
  have missing : ((marketCommand (some "market.toml") false).run market).2 =
      .error (.missingConfig "market.toml") := by
    decide +kernel
  have completed : ((marketCommand none false).run market).2 = .ok ⟨true, ""⟩ := by
    decide +kernel
  refine ⟨⟨_, missing⟩, (run_outcome market _).1 _ missing, (run_outcome market _).2.1 rfl, ?_⟩
  obtain ⟨document, config, instructions, read, planned, _, inPlace⟩ :=
    (run_outcome market (marketCommand none false)).2.2 _ _ _ _ _ _ rfl completed
  exact ⟨document, config, instructions, read, planned, (inPlace rfl).mp rfl⟩

end Command

end ApiContracts
