import ApiContracts.Proofs.Plan.Instructions
import ApiContracts.Proofs.Store.Frame
import ApiContracts.Run

/-!
Handlers are never overwritten. Whatever else is written lies at a place that does not end as
handlers' files do, and a handler's own instruction skips what is there. So a run keeps every
file at a handler's path, and so does any number of runs with edits between them.
-/

namespace ApiContracts

def ArtifactKind.Owns (kind : ArtifactKind) (place : Place) : Prop :=
  ∃ folder name, place = folder ++ [String.ofList name] ∧ kind.fileEnding <:+ name

theorem ArtifactKind.Owns.unique {first second : ArtifactKind} {place : Place}
    (isFirst : first.Owns place) (isSecond : second.Owns place) : first = second := by
  obtain ⟨folder, name, rfl, ending⟩ := isFirst
  obtain ⟨other, otherName, again, otherEnding⟩ := isSecond
  obtain ⟨_, same⟩ := List.append_inj' again rfl
  obtain rfl := String.ofList_inj.mp (List.singleton_inj.mp same)
  exact eq_of_fileEndings ending otherEnding

theorem ArtifactKind.ShownBy.holds {kind : ArtifactKind} {store : Store} {path : String}
    {place : Place} (shown : kind.ShownBy path) (resolved : store.resolve path = .ok place) :
    kind.Owns place := by
  obtain ⟨front, piece, split, ending⟩ := shown
  obtain ⟨folder, _, _, same⟩ :=
    Store.resolve_name split (isName_of_fileEnding ending) resolved
  exact ⟨folder, piece, same, ending⟩

abbrev Store.KeepsHandlers (before after : Store) : Prop :=
  Frame (fun place => ¬ArtifactKind.handler.Owns place) before after

theorem Store.KeepsHandlers.lookup {before after : Store} {path : String} {content : ByteArray}
    (keeps : before.KeepsHandlers after) (shown : ArtifactKind.handler.ShownBy path)
    (there : before.lookup path = .ok (.file content)) :
    after.lookup path = .ok (.file content) := by
  rw [lookup_eq_file_iff] at there ⊢
  obtain ⟨place, resolved, entry⟩ := there
  exact ⟨place, resolve_frame keeps resolved,
    keeps.files place content (not_not_intro (shown.holds resolved)) entry⟩

namespace Instruction

theorem Fits.shown {layout : Layout} {instruction : Instruction} (fits : instruction.Fits layout) :
    instruction.kind.ShownBy instruction.path := by
  rw [fits.path_eq]
  exact layout.pathFor_ending fits.marked

theorem write_always {instruction : Instruction} (always : instruction.policy = .always)
    (text : String) (store : Store) :
    (instruction.write text store).1 =
      (store.inParent instruction.path (·.write instruction.path text.toUTF8)).1 := by
  cases written : store.inParent instruction.path (·.write instruction.path text.toUTF8) with
  | mk after outcome => cases outcome <;> simp only [write, always, written]

theorem write_writeOnce {instruction : Instruction} (once : instruction.policy = .writeOnce)
    (text : String) (store : Store) :
    (instruction.write text store).1 =
      (store.inParent instruction.path (·.create instruction.path text.toUTF8)).1 := by
  cases ready : store.makeParent instruction.path with
  | mk parent made =>
      cases made with
      | error fault => simp only [write, once, Store.inParent, ready]
      | ok =>
          cases created : parent.create instruction.path text.toUTF8 with
          | mk after outcome =>
              cases outcome with
              | ok => simp only [write, once, Store.inParent, ready, created]
              | error fault =>
                  cases fault <;> simp only [write, once, Store.inParent, ready, created]

theorem Fits.write_keeps {layout : Layout} {instruction : Instruction}
    (fits : instruction.Fits layout) (text : String) (store : Store) :
    store.KeepsHandlers (instruction.write text store).1 := by
  cases policy : instruction.policy with
  | always =>
      rw [write_always policy]
      refine Store.inParent_frame (fun parent => ?_) store instruction.path
      -- What is written over lies at a place of another kind than a handler's.
      apply (parent.write_frame instruction.path text.toUTF8).mono
      intro place resolved isHandler
      have kind := (fits.shown.holds resolved).unique isHandler
      rw [fits.policy_eq, kind] at policy
      contradiction
  | writeOnce =>
      rw [write_writeOnce policy]
      refine Store.inParent_frame (fun parent => ?_) store instruction.path
      exact (parent.create_frame instruction.path text.toUTF8).mono nofun

theorem Fits.write_skips {layout : Layout} {instruction : Instruction}
    (fits : instruction.Fits layout) (isHandler : instruction.kind = .handler) (text : String)
    {store : Store} {content : ByteArray}
    (there : store.lookup instruction.path = .ok (.file content)) :
    instruction.write text store = (store, .skipped) := by
  obtain ⟨place, resolved, entry⟩ := (store.lookup_eq_file_iff _ _).mp there
  obtain ⟨plain, _⟩ := fits.handler isHandler
  obtain ⟨front, folder⟩ := layout.folderFor_pieces instruction.kind
  have leafPlain : '/' ∉ (Naming.fileName instruction.name).toList :=
    fun member => plain (Naming.fileName_slash member)
  have leafName := ArtifactKind.isName_of_fileEnding (Naming.fileName_ending fits.marked)
  have ready : store.makeParent instruction.path = (store, .ok ()) := by
    rw [fits.path_eq, layout.pathFor_eq_slash plain] at resolved ⊢
    exact Store.makeParent_of_resolved folder instruction.kind.folder_isName leafPlain leafName
      resolved
  have once : instruction.policy = .writeOnce := by rw [fits.policy_eq, isHandler]; rfl
  simp only [write, once, ready, Store.create, resolved, entry]

theorem Fits.emit_skips {layout : Layout} {instruction : Instruction}
    (fits : instruction.Fits layout) (isHandler : instruction.kind = .handler) (dryRun : Bool)
    {store : Store} {content : ByteArray}
    (there : store.lookup instruction.path = .ok (.file content)) :
    instruction.emit .bundled dryRun store = (store, .skipped) := by
  obtain ⟨_, text, rendered⟩ := fits.handler isHandler
  have once : instruction.policy = .writeOnce := by rw [fits.policy_eq, isHandler]; rfl
  have seen : store.has instruction.path = true := by rw [Store.has, there]; rfl
  simp only [emit, Renderer.bundled, rendered]
  split
  · simp only [foresee, once, seen, ↓reduceIte]
  · exact fits.write_skips isHandler text there

theorem Fits.emit_keeps {layout : Layout} {instruction : Instruction}
    (fits : instruction.Fits layout) (renderer : Renderer) (dryRun : Bool) (store : Store) :
    store.KeepsHandlers (instruction.emit renderer dryRun store).1 := by
  rw [emit]
  split
  next => exact .refl _ _
  next text _ =>
      split
      · exact .refl _ _
      · exact fits.write_keeps text store

end Instruction

theorem emitAll_keeps {layout : Layout} {instructions : List Instruction}
    (fits : ∀ instruction ∈ instructions, instruction.Fits layout) (renderer : Renderer)
    (dryRun : Bool) (store : Store) (report : Report) :
    store.KeepsHandlers (emitAll renderer dryRun instructions store report).1 := by
  induction instructions generalizing store report with
  | nil => exact .refl _ _
  | cons instruction rest ih =>
      rw [emitAll]
      exact ((fits instruction (by simp)).emit_keeps renderer dryRun store).trans
        (ih (fun other member => fits other (List.mem_cons_of_mem _ member)) _ _)

structure Report.Spares (report : Report) (path : String) : Prop where
  notWritten : path ∉ report.written
  notFailed : ∀ failure ∈ report.failed, failure.1 ≠ path

theorem Report.Spares.add {report : Report} {path other : String} {outcome : Outcome}
    (spares : report.Spares path) (harmless : other = path → outcome = .skipped) :
    (report.add other outcome).Spares path := by
  cases outcome with
  | written =>
      refine ⟨?_, spares.notFailed⟩
      rw [Report.add, List.mem_append, List.mem_singleton]
      rintro (old | rfl)
      · exact spares.notWritten old
      · exact absurd (harmless rfl) (by simp)
  | skipped => exact ⟨spares.notWritten, spares.notFailed⟩
  | failed reason =>
      refine ⟨spares.notWritten, ?_⟩
      intro failure member
      rw [Report.add, List.mem_append, List.mem_singleton] at member
      rcases member with old | rfl
      · exact spares.notFailed failure old
      · intro same
        exact absurd (harmless same) (by simp)

theorem Report.skipped_add {report : Report} {path : String} (skipped : path ∈ report.skipped)
    (other : String) (outcome : Outcome) : path ∈ (report.add other outcome).skipped := by
  cases outcome with
  | written => exact skipped
  | skipped => exact List.mem_append_left _ skipped
  | failed reason => exact skipped

theorem emitAll_skips {layout : Layout} {instructions : List Instruction} {path : String}
    {content : ByteArray} (fits : ∀ instruction ∈ instructions, instruction.Fits layout)
    (shown : ArtifactKind.handler.ShownBy path) (dryRun : Bool) {store : Store} {report : Report}
    (there : store.lookup path = .ok (.file content)) (spares : report.Spares path) :
    (emitAll .bundled dryRun instructions store report).2.Spares path ∧
      ((path ∈ report.skipped ∨ ∃ instruction ∈ instructions, instruction.path = path) →
        path ∈ (emitAll .bundled dryRun instructions store report).2.skipped) := by
  induction instructions generalizing store report with
  | nil => exact ⟨spares, by simp [emitAll]⟩
  | cons instruction rest ih =>
      have fitsHere := fits instruction (by simp)
      have fitsLater := fun other member => fits other (List.mem_cons_of_mem _ member)
      -- An instruction for this very path can only be a handler's.
      have skips : instruction.path = path →
          instruction.emit .bundled dryRun store = (store, .skipped) := by
        rintro rfl
        exact fitsHere.emit_skips (fitsHere.shown.unique shown) dryRun there
      have kept := (fitsHere.emit_keeps .bundled dryRun store).lookup shown there
      have added : (report.add instruction.path
          (instruction.emit .bundled dryRun store).2).Spares path :=
        spares.add fun same => by rw [skips same]
      obtain ⟨later, laterSkips⟩ := ih fitsLater kept added
      rw [emitAll]
      refine ⟨later, fun reason => laterSkips ?_⟩
      rcases reason with old | ⟨other, member, same⟩
      · exact .inl (Report.skipped_add old _ _)
      · rcases List.mem_cons.mp member with rfl | inRest
        · refine .inl ?_
          rw [skips same, same]
          exact List.mem_append_right _ (List.mem_singleton.mpr rfl)
        · exact .inr ⟨other, inRest, same⟩

structure Run where
  document : Document
  config : Config
  output : String
  dryRun : Bool

namespace Run

def instructions (run : Run) : Except GenerationError (List Instruction) :=
  run.document.instructions run.config run.output

def result (run : Run) (store : Store) : Store × Except GenerationError Report :=
  generate .bundled run.document run.config run.output run.dryRun store

def Targets (run : Run) (path : String) : Prop :=
  ∃ instructions, run.instructions = .ok instructions ∧
    ∃ instruction ∈ instructions, instruction.kind = .handler ∧ instruction.path = path

theorem fits {run : Run} {instructions : List Instruction}
    (planned : run.instructions = .ok instructions) {instruction : Instruction}
    (member : instruction ∈ instructions) :
    instruction.Fits (run.config.layout run.output) := by
  obtain ⟨closure, plannable, rfl⟩ := (Document.instructions_eq_ok_iff _ _ _ _).mp planned
  exact plannable.fits _ member

theorem Targets.shown {run : Run} {path : String} (targets : run.Targets path) :
    ArtifactKind.handler.ShownBy path := by
  obtain ⟨instructions, planned, instruction, member, isHandler, rfl⟩ := targets
  rw [← isHandler]
  exact (fits planned member).shown

theorem result_eq {run : Run} {instructions : List Instruction}
    (planned : run.instructions = .ok instructions) (store : Store) :
    run.result store =
      ((emitAll .bundled run.dryRun instructions store .empty).1,
        .ok (emitAll .bundled run.dryRun instructions store .empty).2) := by
  have complete : missingTemplate? .bundled instructions = none := by
    simp [missingTemplate?, Renderer.bundled]
  rw [Run.instructions] at planned
  rw [result, generate, planned]
  simp only [emit, complete]

theorem keeps (run : Run) (store : Store) : store.KeepsHandlers (run.result store).1 := by
  cases planned : run.instructions with
  | error error =>
      rw [instructions] at planned
      rw [result, generate, planned]
      exact .refl _ _
  | ok instructions =>
      rw [result_eq planned]
      exact emitAll_keeps (fun _ member => fits planned member) _ _ _ _

theorem targets_operation {run : Run} {instructions : List Instruction}
    (planned : run.instructions = .ok instructions) {operation : Operation}
    (member : operation ∈ run.document.operations) :
    run.Targets ((run.config.layout run.output).pathFor .handler
      (Handler.ofRequest (Request.ofOperation operation)).name) := by
  obtain ⟨closure, _, rfl⟩ := (Document.instructions_eq_ok_iff _ _ _ _).mp planned
  refine ⟨_, planned, Instruction.ofHandler (run.config.layout run.output)
    (Handler.ofRequest (Request.ofOperation operation)), ?_, Instruction.ofHandler_kind _ _, ?_⟩
  · rw [(run.document.instructions_perm _ closure _).mem_iff]
    simp only [Document.sortedInstructions, List.mem_append]
    exact .inr (.inr (.inr (List.mem_map.mpr ⟨_, List.mem_map_of_mem member, rfl⟩)))
  · rw [Instruction.ofHandler, Instruction.make_path]

end Run

/-- What happens to a tree: a run, or any edit by the user. -/
inductive Event where
  | run (run : Run)
  | edit (change : Store → Store)

def Event.apply (store : Store) : Event → Store
  | .run next => (next.result store).1
  | .edit change => change store

/-- Handlers are never overwritten. Whatever runs and edits came before, a run keeps every file at
the path of a handler, one of its own or of an earlier run, byte by byte, and it reports its own
such paths as skipped and as nothing else. -/
theorem history_keeps_handlers (start : Store) (history : List Event) (run : Run)
    {instructions : List Instruction} (planned : run.instructions = .ok instructions)
    {path : String} {content : ByteArray}
    (targeted : run.Targets path ∨ ∃ earlier, .run earlier ∈ history ∧ earlier.Targets path)
    (there : (history.foldl Event.apply start).lookup path = .ok (.file content)) :
    (run.result (history.foldl Event.apply start)).1.lookup path = .ok (.file content) ∧
      ∃ report, (run.result (history.foldl Event.apply start)).2 = .ok report ∧
        (run.Targets path → path ∈ report.skipped ∧ report.Spares path) := by
  have shown : ArtifactKind.handler.ShownBy path := by
    rcases targeted with own | ⟨earlier, _, others⟩
    · exact own.shown
    · exact others.shown
  have untouched : Report.empty.Spares path := ⟨by simp [Report.empty], by simp [Report.empty]⟩
  obtain ⟨spares, skips⟩ :=
    emitAll_skips (fun _ member => Run.fits planned member) shown run.dryRun there untouched
  refine ⟨(run.keeps _).lookup shown there, _, by rw [Run.result_eq planned], ?_⟩
  rintro ⟨_, again, instruction, member, _, same⟩
  obtain rfl := Except.ok.inj (planned.symm.trans again)
  exact ⟨skips (.inr ⟨instruction, member, same⟩), spares⟩

def clinicRun : Run := ⟨.clinic, Document.clinicConfig, "out", false⟩

def editedClinic : Store :=
  ⟨[(["out"], .directory), (["out", "generated"], .directory),
    (["out", "generated", "handlers"], .directory),
    (["out", "generated", "handlers", "add_pet_command_handler.rs"], .file "by hand".toUTF8)]⟩

theorem clinic_keeps_handlers :
    (∃ instructions, clinicRun.instructions = .ok instructions) ∧
      clinicRun.Targets "out/generated/handlers/add_pet_command_handler.rs" ∧
      (clinicRun.result editedClinic).1.lookup "out/generated/handlers/add_pet_command_handler.rs" =
        .ok (.file "by hand".toUTF8) ∧
      ∃ report, (clinicRun.result editedClinic).2 = .ok report ∧
        "out/generated/handlers/add_pet_command_handler.rs" ∈ report.skipped := by
  obtain ⟨instructions, made⟩ : ∃ instructions, clinicRun.instructions = .ok instructions :=
    Document.clinic_instructions
  have isOperation : Document.addPet ∈ clinicRun.document.operations := List.mem_cons_self
  have path : (clinicRun.config.layout clinicRun.output).pathFor .handler
      (Handler.ofRequest (Request.ofOperation Document.addPet)).name =
        "out/generated/handlers/add_pet_command_handler.rs" := by
    decide +kernel
  have targets : clinicRun.Targets "out/generated/handlers/add_pet_command_handler.rs" :=
    path ▸ Run.targets_operation made isOperation
  have there : ([.run clinicRun, .edit fun _ => editedClinic].foldl Event.apply .empty).lookup
      "out/generated/handlers/add_pet_command_handler.rs" = .ok (.file "by hand".toUTF8) := by
    change editedClinic.lookup _ = _
    decide
  obtain ⟨kept, report, reported, skips⟩ :=
    history_keeps_handlers .empty [.run clinicRun, .edit fun _ => editedClinic] clinicRun made
      (.inl targets) there
  exact ⟨⟨instructions, made⟩, targets, kept, report, reported, (skips targets).1⟩

end ApiContracts
