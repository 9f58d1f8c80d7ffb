import ApiContracts.Config

/-!
The command line: switches before and behind a command, each given at most once, and the
ways in which arguments are refused.
-/

namespace ApiContracts

inductive UsageError where
  | displayHelp
  | displayVersion
  | noArguments
  | missingCommand
  | unknownCommand
  | unknownArgument
  | invalidValue
  | repeatedArgument
  | unneededValue
  | missingArgument
deriving DecidableEq, Repr

def UsageError.message? : UsageError → Option String
  | .displayHelp | .displayVersion | .noArguments => none
  | .missingCommand => some "a command is required"
  | .unknownCommand => some "unrecognized command"
  | .unknownArgument => some "unexpected argument"
  | .invalidValue => some "a value is missing or not possible"
  | .repeatedArgument => some "an argument cannot be used multiple times"
  | .unneededValue => some "an argument takes no value"
  | .missingArgument => some "a required argument is missing"

inductive ListingFormat where
  | json | yaml
deriving DecidableEq, Repr

def ListingFormat.ofText? : String → Option ListingFormat
  | "json" => some json
  | "yaml" => some yaml
  | _ => none

inductive Command where
  | generate (spec output : String) (config : Option String) (overrides : Overrides)
      (dryRun : Bool)
  | inspect (spec output : String) (config : Option String) (format : ListingFormat)
deriving DecidableEq, Repr

structure Invocation where
  verbose : Bool
  command : Command
deriving DecidableEq, Repr

namespace CommandLine

inductive Action where
  | flag
  | value
  | help
  | version
deriving DecidableEq, Repr

structure Switch where
  long : String
  short : Option Char
  action : Action
deriving DecidableEq, Repr

structure Found where
  settled : List (String × String)
  pending : Option (String × Option String)
deriving DecidableEq, Repr

namespace Found

def none : Found := ⟨[], .none⟩

def value? (found : Found) (name : String) : Option String := found.settled.lookup name

def has (found : Found) (name : String) : Bool := (found.value? name).isSome

def isPossible (name value : String) : Bool :=
  if name == "format" then (ListingFormat.ofText? value).isSome else !value.isEmpty

def settle (found : Found) : Except UsageError Found :=
  match found.pending with
  | .none => .ok found
  | some (_, .none) => .error .invalidValue
  | some (name, some value) =>
    if found.has name then .error .repeatedArgument
    else if !isPossible name value then .error .invalidValue
    else .ok ⟨(name, value) :: found.settled, .none⟩

def await (found : Found) (name : String) : Except UsageError Found :=
  found.settle.map fun found => { found with pending := some (name, .none) }

def add (found : Found) (name value : String) : Except UsageError Found :=
  match found.settle with
  | .error error => .error error
  | .ok found => { found with pending := some (name, some value) }.settle

def turnOn (found : Found) (name : String) : Except UsageError Found :=
  match found.settle with
  | .error error => .error error
  | .ok found =>
    if found.has name then .error .repeatedArgument
    else .ok { found with settled := (name, "true") :: found.settled }

def act (found : Found) (switch : Switch) : Except UsageError Found :=
  match switch.action with
  | .flag => found.turnOn switch.long
  | .value => found.await switch.long
  | .help => found.settle.bind fun _ => .error .displayHelp
  | .version => found.settle.bind fun _ => .error .displayVersion

def isAwaiting (found : Found) : Bool :=
  match found.pending with
  | some (_, .none) => true
  | _ => false

def supply (found : Found) (value : String) : Found :=
  { found with pending := found.pending.map fun (name, _) => (name, some value) }

end Found

def readLong (switches : List Switch) (text : List Char) (found : Found) :
    Except UsageError Found :=
  let name := String.ofList (text.takeWhile (· != '='))
  let attached :=
    match text.dropWhile (· != '=') with
    | _ :: value => some (String.ofList value)
    | [] => none
  match switches.find? (·.long == name) with
  | none => .error .unknownArgument
  | some switch =>
    match attached with
    | none => found.act switch
    | some value =>
      if switch.action == .value then found.add switch.long value else .error .unneededValue

/-- Reads a cluster of short switches behind its dash. The first one that takes a value takes
the rest of the cluster, without an equals sign before it. -/
def readShort (switches : List Switch) : List Char → Found → Except UsageError Found
  | [], found => .ok found
  | c :: rest, found =>
    match switches.find? (·.short == some c) with
    | none => .error .unknownArgument
    | some switch =>
      if switch.action == .value then
        match rest with
        | [] => found.await switch.long
        | '=' :: value => found.add switch.long (String.ofList value)
        | value => found.add switch.long (String.ofList value)
      else
        match found.act switch with
        | .ok found => readShort switches rest found
        | .error error => .error error

def readSwitches (switches : List Switch) (commands : List String) :
    List String → Found → Except UsageError (Found × Option (String × List String))
  | [], found => found.settle.map (·, none)
  | argument :: rest, found =>
    let stray : UsageError := if commands.isEmpty then .unknownArgument else .unknownCommand
    if !found.isAwaiting && commands.contains argument then .ok (found, some (argument, rest))
    else
      match argument.toList with
      | ['-', '-'] =>
        match rest with
        | [] => found.settle.map (·, none)
        | next :: _ => .error (if commands.contains next then .unknownArgument else stray)
      | '-' :: '-' :: text =>
        match readLong switches text found with
        | .ok found => readSwitches switches commands rest found
        | .error error => .error error
      | '-' :: c :: text =>
        match readShort switches (c :: text) found with
        | .ok found => readSwitches switches commands rest found
        | .error error => .error error
      | _ =>
        if found.isAwaiting then readSwitches switches commands rest (found.supply argument)
        else .error stray

def commonSwitches : List Switch :=
  [⟨"verbose", some 'v', .flag⟩, ⟨"help", some 'h', .help⟩]

def topSwitches : List Switch := commonSwitches ++ [⟨"version", some 'V', .version⟩]

def sharedSwitches : List Switch :=
  commonSwitches ++
    [⟨"spec", some 's', .value⟩, ⟨"output", some 'o', .value⟩, ⟨"config", some 'c', .value⟩]

def generateSwitches : List Switch :=
  sharedSwitches ++
    [⟨"validators", none, .flag⟩, ⟨"include-all-models", none, .flag⟩,
      ⟨"split-packaging", none, .flag⟩, ⟨"dry-run", none, .flag⟩]

def inspectSwitches : List Switch := sharedSwitches ++ [⟨"format", none, .value⟩]

def commandWords : List String := ["generate", "inspect", "help"]

def readHelp : List String → UsageError
  | [] => .displayHelp
  | [word] => if commandWords.contains word then .displayHelp else .unknownCommand
  | _ => .unknownCommand

def commandOf (word : String) (found : Found) : Except UsageError Command :=
  match found.value? "spec" with
  | none => .error .missingArgument
  | some spec =>
    let output := (found.value? "output").getD "."
    let config := found.value? "config"
    if word == "generate" then
      .ok (.generate spec output config
        ⟨found.has "validators", found.has "include-all-models", found.has "split-packaging"⟩
        (found.has "dry-run"))
    else
      let format := ((found.value? "format").bind ListingFormat.ofText?).getD .json
      .ok (.inspect spec output config format)

def parse (arguments : List String) : Except UsageError Invocation :=
  match readSwitches topSwitches commandWords arguments .none with
  | .error error => .error error
  | .ok (found, none) =>
    .error (if found.settled.isEmpty then .noArguments else .missingCommand)
  | .ok (top, some (word, rest)) =>
    if word == "help" then .error (readHelp rest)
    else
      let switches := if word == "generate" then generateSwitches else inspectSwitches
      match readSwitches switches [] rest .none with
      | .error error => .error error
      | .ok (found, _) =>
        (commandOf word found).map fun command =>
          { verbose := top.has "verbose" || found.has "verbose", command }

end CommandLine

end ApiContracts
