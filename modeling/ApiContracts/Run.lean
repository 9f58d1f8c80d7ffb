import ApiContracts.CommandLine
import ApiContracts.Emission
import ApiContracts.Json.Printer
import ApiContracts.Load
import ApiContracts.Toml.Settings
import ApiContracts.Yaml.Printer

/-!
Runs of the generator on a tree of files: loading the document and the settings, planning, and
then writing files or listing what would be written.
-/

namespace ApiContracts

inductive RunError where
  | unreadableDocument (path : String) (fault : FileFault)
  | badDocument (path : String) (error : LoadError)
  | missingConfig (path : String)
  | unreadableConfig (path : String) (fault : FileFault)
  | badConfig (path : String)
  | generation (error : GenerationError)
deriving DecidableEq, Repr

def RunError.message : RunError → String
  | .unreadableDocument path fault =>
    "failed to read schema document " ++ path ++ ": " ++ fault.message
  | .badDocument path error => "failed to load " ++ path ++ ": " ++ error.message
  | .missingConfig path => "Config file not found: " ++ path
  | .unreadableConfig path fault => "Failed to read config: " ++ path ++ ": " ++ fault.message
  | .badConfig path => "Failed to parse config: " ++ path
  | .generation error => error.message

def Document.load (store : Store) (path : String) : Except RunError Document :=
  match store.readText path with
  | .error fault => .error (.unreadableDocument path fault)
  | .ok text =>
    let extension := (Path.extension? path).map String.ofList
    let yaml := extension == some "yaml" || extension == some "yml"
    (Document.ofText text yaml).mapError (.badDocument path)

namespace Config

def fileName : String := "cqrsgen.toml"

def set? (config : Config) (setting : String × Toml.Setting) : Option Config :=
  match setting with
  | ("validators", .flag on) => some { config with validators := on }
  | ("include_all_models", .flag on) => some { config with includeAllModels := on }
  | ("split_packaging", .flag on) => some { config with splitPackaging := on }
  | ("generated_folder", .text folder) => some { config with generatedFolder := folder }
  | ("implementation_folder", .text folder) => some { config with implementationFolder := folder }
  | _ => none

def ofText? (text : String) : Option Config :=
  (Toml.read? text).bind fun settings => settings.foldlM set? standard

def loadFile (store : Store) (path : String) : Except RunError Config :=
  match store.readText path with
  | .error fault => .error (.unreadableConfig path fault)
  | .ok text =>
    match ofText? text with
    | some config => .ok config
    | none => .error (.badConfig path)

def detect? (store : Store) (spec : String) : Option String :=
  (Path.parent? spec).bind fun parent =>
    let path := Path.join parent fileName
    if store.has path then some path else none

/-- The settings of a run: those of the given file, which has to be there, or of the file next
to the document, or the standard ones. -/
def load (store : Store) (given : Option String) (spec : String) : Except RunError Config :=
  match given with
  | some path => if store.has path then loadFile store path else .error (.missingConfig path)
  | none =>
    match detect? store spec with
    | some path => loadFile store path
    | none => .ok standard

end Config

def Instruction.listing (instruction : Instruction) : List (String × String) :=
  [("kind", instruction.kind.text), ("name", instruction.name),
    ("output_path", instruction.path), ("write_policy", instruction.policy.listed)]

def jsonListing (instructions : List Instruction) : String :=
  Json.pretty "" (.array (instructions.map fun instruction =>
    .ofMembers (instruction.listing.map fun (key, value) => (key, .string value))))

def yamlListing (instructions : List Instruction) : String :=
  if instructions.isEmpty then "[]\n"
  else String.join (instructions.map fun instruction =>
    "- " ++ "  ".intercalate (instruction.listing.map fun (key, value) =>
      key ++ ": " ++ Yaml.scalarText 4 value ++ "\n"))

structure RunResult where
  /-- Every artifact was written, or skipped as it should be. -/
  complete : Bool
  output : String
deriving DecidableEq, Repr

def generate (renderer : Renderer) (document : Document) (config : Config) (output : String)
    (dryRun : Bool) (store : Store) : Store × Except GenerationError Report :=
  match document.instructions config output with
  | .error error => (store, .error error)
  | .ok instructions => emit renderer dryRun instructions store

namespace Command

def inputs (store : Store) (spec : String) (config : Option String) :
    Except RunError (Document × Config) :=
  match Document.load store spec with
  | .error error => .error error
  | .ok document => (Config.load store config spec).map (document, ·)

def run (store : Store) : Command → Store × Except RunError RunResult
  | .generate spec output config overrides dryRun =>
    match inputs store spec config with
    | .error error => (store, .error error)
    | .ok (document, config) =>
      match ApiContracts.generate .bundled document (config.withOverrides overrides) output
          dryRun store with
      | (store, .ok report) => (store, .ok ⟨!report.hasFailures, ""⟩)
      | (store, .error error) => (store, .error (.generation error))
  | .inspect spec output config format =>
    match inputs store spec config with
    | .error error => (store, .error error)
    | .ok (document, config) =>
      match document.instructions config output with
      | .error error => (store, .error (.generation error))
      | .ok instructions =>
        let listing :=
          match format with
          | .json => jsonListing instructions
          | .yaml => yamlListing instructions
        (store, .ok ⟨true, listing ++ "\n"⟩)

end Command

end ApiContracts
