import ApiContracts.Text.Words

/-!
Names of generated artifacts. Each is a pure function of an operation id, a model name or a
wire name.
-/

namespace ApiContracts.Naming

open Text

def dtoSuffix : List Char := ['D', 't', 'o']

def clean (text : List Char) : List Char :=
  text.map fun c => if isAsciiAlphanumeric c then c else '_'

/-- The cleaned text in Pascal case: `add.pet` and `addPet` both give `AddPet`. -/
def pascalCase (text : String) : String := String.ofList (pascal (clean text.toList))

def commandName (operationId : String) : String := pascalCase operationId ++ "Command"

def queryName (operationId : String) : String := pascalCase operationId ++ "Query"

def handlerName (requestName : String) : String := requestName ++ "Handler"

/-- Whether a name is longer than the suffix and ends in it. -/
def isDtoName (name : String) : Bool :=
  endsIn dtoSuffix name.toList && name.toList != dtoSuffix

def dtoName (modelName : String) : String :=
  if isDtoName modelName then modelName else modelName ++ "Dto"

def validatorName (dtoName : String) : String := dtoName ++ "Validator"

def fileStem (artifactName : String) : String := String.ofList (snake artifactName.toList)

/-- Keywords that may be written as a raw identifier. -/
def rawKeywords : List String :=
  ["as", "break", "const", "continue", "crate", "else", "enum", "extern", "false", "fn", "for",
    "if", "impl", "in", "let", "loop", "match", "mod", "move", "mut", "pub", "ref", "return",
    "static", "struct", "super", "trait", "true", "type", "unsafe", "use", "where", "while",
    "async", "await", "dyn"]

def pathKeywords : List String := ["self", "Self", "super", "crate"]

def fieldWord (wireName : String) : List Char :=
  match snake (clean wireName.toList) with
  | [] => ['_']
  | c :: rest => if isAsciiDigit c then '_' :: c :: rest else c :: rest

/-- Struct field for a property or parameter; a keyword becomes a raw identifier or, where it
has none, gains an underscore. -/
def fieldName (wireName : String) : String :=
  let word := String.ofList (fieldWord wireName)
  if pathKeywords.contains word then word ++ "_"
  else if rawKeywords.contains word then "r#" ++ word
  else word

def variantName (value : String) : String :=
  match pascal (clean value.toList) with
  | [] => "Empty"
  | c :: rest => String.ofList (if isAsciiDigit c then 'V' :: c :: rest else c :: rest)

def slug (title : String) : String :=
  let dashed := clean (lower title.toList)
  String.ofList (dropEndWhile (· == '_') (dashed.dropWhile (· == '_')))

end ApiContracts.Naming
