import ApiContracts.Contract.Source
import ApiContracts.Error
import ApiContracts.Store

/-!
Carrying out write instructions. What cannot be rendered or written is reported and does not
stop the others; a missing template stops everything before the first file.
-/

namespace ApiContracts

structure Renderer where
  supports : ArtifactKind → Bool
  render : Instruction → Except String String

def Renderer.bundled : Renderer := ⟨fun _ => true, Instruction.render⟩

structure Report where
  written : List String
  skipped : List String
  failed : List (String × String)
deriving DecidableEq, Repr

namespace Report

def empty : Report := ⟨[], [], []⟩

def hasFailures (report : Report) : Bool := !report.failed.isEmpty

end Report

inductive Outcome where
  | written
  | skipped
  | failed (reason : String)
deriving DecidableEq, Repr

def Report.add (report : Report) (path : String) : Outcome → Report
  | .written => { report with written := report.written ++ [path] }
  | .skipped => { report with skipped := report.skipped ++ [path] }
  | .failed reason => { report with failed := report.failed ++ [(path, reason)] }

def Instruction.write (instruction : Instruction) (text : String) (store : Store) :
    Store × Outcome :=
  match instruction.policy with
  | .always =>
    match store.inParent instruction.path (·.write instruction.path text.toUTF8) with
    | (store, .ok ()) => (store, .written)
    | (store, .error fault) => (store, .failed fault.message)
  | .writeOnce =>
    match store.makeParent instruction.path with
    | (store, .error fault) => (store, .failed fault.message)
    | (store, .ok ()) =>
      match store.create instruction.path text.toUTF8 with
      | (store, .ok ()) => (store, .written)
      | (store, .error .exists) => (store, .skipped)
      | (store, .error fault) => (store, .failed fault.message)

/-- What writing an instruction would do, as far as what is there decides it. -/
def Instruction.foresee (instruction : Instruction) (store : Store) : Outcome :=
  match instruction.policy with
  | .writeOnce => if store.has instruction.path then .skipped else .written
  | .always => .written

def Instruction.emit (renderer : Renderer) (dryRun : Bool) (instruction : Instruction)
    (store : Store) : Store × Outcome :=
  match renderer.render instruction with
  | .error reason => (store, .failed reason)
  | .ok text =>
    if dryRun then (store, instruction.foresee store) else instruction.write text store

def emitAll (renderer : Renderer) (dryRun : Bool) :
    List Instruction → Store → Report → Store × Report
  | [], store, report => (store, report)
  | instruction :: rest, store, report =>
    let (store, outcome) := instruction.emit renderer dryRun store
    emitAll renderer dryRun rest store (report.add instruction.path outcome)

def missingTemplate? (renderer : Renderer) (instructions : List Instruction) :
    Option ArtifactKind :=
  ArtifactKind.all.find? fun kind =>
    instructions.any (·.kind == kind) && !renderer.supports kind

def emit (renderer : Renderer) (dryRun : Bool) (instructions : List Instruction)
    (store : Store) : Store × Except GenerationError Report :=
  match missingTemplate? renderer instructions with
  | some kind => (store, .error (.missingTemplate kind))
  | none =>
    let (store, report) := emitAll renderer dryRun instructions store .empty
    (store, .ok report)

end ApiContracts
