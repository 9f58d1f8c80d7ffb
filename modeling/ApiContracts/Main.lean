import ApiContracts.CommandLine
import ApiContracts.Run

/-!
The program: reads from disk what a command may look at, carries the command out on the tree of
files in memory, and writes to disk what has changed.
-/

namespace ApiContracts

def probe (path : String) : IO (Option Entry) := do
  try
    let place ← IO.FS.realPath path
    if ← place.isDir then return some .directory
    return some (.file (← IO.FS.readBinFile place))
  catch _ => return none

def survey (store : Store) (path : String) : IO Store := do
  let pieces := Path.pieces path
  let steps := (List.range pieces.length).map fun index => pieces.take (index + 1)
  steps.foldlM (fun store step => do
    let path := String.ofList (List.intercalate ['/'] step)
    let .ok place := store.resolve path | return store
    if (store.held? place).isSome then return store
    let some entry ← probe path | return store
    return store.put place entry) store

def surveyCommand (command : Command) : IO Store := do
  let (spec, output, config) :=
    match command with
    | .generate spec output config _ _ => (spec, output, config)
    | .inspect spec output config _ => (spec, output, config)
  let beside := (Path.parent? spec).map (Path.join · Config.fileName)
  let store ← (spec :: (config <|> beside).toList).foldlM survey .empty
  match Command.inputs store spec config with
  | .error _ => return store
  | .ok (document, config) =>
    let config :=
      match command with
      | .generate _ _ _ overrides _ => config.withOverrides overrides
      | .inspect .. => config
    let instructions := (document.instructions config output).toOption.getD []
    (instructions.map (·.path)).foldlM survey store

def writeBack (before after : Store) : IO Unit :=
  after.entries.forM fun (place, entry) => do
    if before.entries.lookup place == some entry then return ()
    match entry with
    | .directory => IO.FS.createDir place.path
    | .file content => IO.FS.writeBinFile place.path content

def usage : String :=
  "Usage: cqrsgen [-v] generate --spec <FILE> [--output <DIR>] [--config <FILE>] [--validators]\n" ++
  "               [--include-all-models] [--split-packaging] [--dry-run]\n" ++
  "       cqrsgen [-v] inspect --spec <FILE> [--output <DIR>] [--config <FILE>]\n" ++
  "               [--format json|yaml]\n"

def reportUsage (error : UsageError) : IO UInt32 := do
  match error with
  | .displayHelp =>
    IO.print usage
    return 0
  | .displayVersion =>
    IO.println "cqrsgen 0.1.0-alpha.1"
    return 0
  | _ =>
    if let some message := error.message? then IO.eprintln ("error: " ++ message)
    IO.eprint usage
    return 2

def carryOut (invocation : Invocation) : IO UInt32 := do
  let before ← surveyCommand invocation.command
  let (after, result) := invocation.command.run before
  writeBack before after
  match result with
  | .ok result =>
    IO.print result.output
    return if result.complete then 0 else 1
  | .error error =>
    IO.eprintln ("generation failed: " ++ error.message)
    return 1

end ApiContracts

def main (arguments : List String) : IO UInt32 :=
  match ApiContracts.CommandLine.parse arguments with
  | .ok invocation => ApiContracts.carryOut invocation
  | .error error => ApiContracts.reportUsage error
