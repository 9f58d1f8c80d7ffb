import ApiContracts.Contract.Instruction
import ApiContracts.Decimal.Format
import ApiContracts.Text.Quoted

/-!
Source texts of artifacts, line by line.
-/

namespace ApiContracts

def quoted (text : String) : String := String.ofList (Text.quote text.toList)

def insertName (name : String) : List String → List String
  | [] => [name]
  | first :: rest =>
    if name == first then first :: rest
    else if name < first then name :: first :: rest
    else first :: insertName name rest

def sortedNames (names : List String) : List String := names.foldr insertName []

def docLines (description : Option String) : List String :=
  (description.map fun text =>
    (Text.lines text.toList).map fun line => String.ofList (Text.trimEnd line)).getD []

structure FieldLines where
  doc : List String
  attributes : List String
  identifier : String
  type : String
deriving DecidableEq, Repr

def bareIdentifier (identifier : String) : String :=
  match identifier.toList with
  | 'r' :: '#' :: rest => String.ofList rest
  | chars => String.ofList chars

/-- The attribute that keeps a wire name which the identifier does not show. -/
def renameAttribute (identifier wireName : String) : List String :=
  if bareIdentifier identifier == wireName then [] else ["rename = " ++ quoted wireName]

def optionalAttribute (optional : Bool) : List String :=
  if optional then ["default, skip_serializing_if = \"Option::is_none\""] else []

def FieldLines.lines (field : FieldLines) : List String :=
  field.doc.map ("    /// " ++ ·) ++
  (if field.attributes.isEmpty then []
    else ["    #[serde(" ++ ", ".intercalate field.attributes ++ ")]"]) ++
  ["    pub " ++ field.identifier ++ ": " ++ field.type ++ ","]

def header (origin : String) : List String :=
  ["// Generated by cqrsgen " ++ origin, "// Do not edit: this file is rewritten on every run."]

def imports (path : String) (types : List TypeExpr) (own : List String) : List String :=
  let names := sortedNames ((types.flatMap (·.references)).filter (!own.contains ·))
  (if types.any (·.usesMap) then ["use std::collections::HashMap;"] else []) ++
  names.map fun name => "use " ++ path ++ Naming.fileStem name ++ "::" ++ name ++ ";"

def dataPreamble (imports : List String) : List String :=
  ["#![allow(unused_imports)]", "", "use serde::\x7bDeserialize, Serialize\x7d;"] ++ imports ++
  [""]

def structLines (name : String) (fields : List FieldLines) : List String :=
  ["#[derive(Debug, Clone, PartialEq, Serialize, Deserialize)]", "pub struct " ++ name ++ " \x7b"]
    ++ fields.flatMap FieldLines.lines ++ ["\x7d"]

namespace Dto

def fieldLines (dto : Dto) : List FieldLines :=
  dto.properties.map fun property =>
    { doc := docLines property.description
      attributes :=
        renameAttribute property.fieldName property.name ++ optionalAttribute property.isOptional
      identifier := property.fieldName
      type := property.fieldType }

/-- Identifiers for the values of an enumeration from position `index` on; one that is taken
gains the position of its value. -/
def variantIdentifiers (taken : List String) (index : Nat) : List String → List String
  | [] => []
  | value :: rest =>
    let plain := Naming.variantName value
    if taken.contains plain then
      (plain ++ toString index) :: variantIdentifiers taken (index + 1) rest
    else plain :: variantIdentifiers (plain :: taken) (index + 1) rest

def variants (dto : Dto) : List (String × String) :=
  (variantIdentifiers [] 0 dto.enumValues).zip dto.enumValues

def imports (dto : Dto) : List String :=
  ApiContracts.imports "super::" (dto.properties.map (·.type)) [dto.name]

def source (dto : Dto) : List String :=
  header ("from model `" ++ dto.sourceModel ++ "`.") ++ dataPreamble dto.imports ++
  (docLines dto.description).map ("/// " ++ ·) ++
  if dto.isEnum then
    ["#[derive(Debug, Clone, Copy, PartialEq, Eq, Hash, Serialize, Deserialize)]",
      "pub enum " ++ dto.name ++ " \x7b"] ++
    (dto.variants.flatMap fun (identifier, value) =>
      ["    #[serde(rename = " ++ quoted value ++ ")]", "    " ++ identifier ++ ","]) ++
    ["\x7d"]
  else structLines dto.name dto.fieldLines

end Dto

namespace Request

def fieldLines (request : Request) : List FieldLines :=
  request.fields.map fun field =>
    { doc :=
        match field.location with
        | some location => ["`" ++ field.name ++ "` " ++ location.text ++ " parameter"]
        | none => ["Request body"]
      attributes :=
        renameAttribute field.fieldName field.name ++ optionalAttribute (!field.required)
      identifier := field.fieldName
      type := field.fieldType }

def imports (request : Request) : List String :=
  ApiContracts.imports "super::super::dtos::"
    (request.classification.dtoResponseType :: request.fields.map (·.type)) []

def textConstant (name value : String) : String :=
  "    pub const " ++ name ++ ": &'static str = \"" ++ value ++ "\";"

def flagConstant (name : String) (value : Bool) : String :=
  "    pub const " ++ name ++ ": bool = " ++ toString value ++ ";"

def sourceWith (request : Request) (role : String) (flags : List String) : List String :=
  header ("from operation `" ++ request.operationId ++ "`.") ++ dataPreamble request.imports ++
  (docLines request.summary).map ("/// " ++ ·) ++
  ["///", "/// " ++ role ++ " for `" ++ request.method ++ " " ++ request.path ++ "`."] ++
  structLines request.name request.fieldLines ++
  ["",
    "impl " ++ request.name ++ " \x7b",
    textConstant "OPERATION_ID" request.operationId,
    textConstant "METHOD" request.method,
    textConstant "PATH" request.path] ++
  flags ++
  ["\x7d",
    "",
    "/// Contract-side result of `" ++ request.name ++ "` (domain result: `" ++
      request.classification.responseType.render ++ "`).",
    "pub type " ++ request.name ++ "Response = " ++
      request.classification.dtoResponseType.render ++ ";"]

def commandSource (request : Request) : List String :=
  request.sourceWith "Command"
    ["    /// The operation answers `201 Created` on success",
      flagConstant "CREATED_ON_SUCCESS" request.classification.createdOnSuccess,
      "    /// A void delete reports `true` when the resource existed",
      flagConstant "DELETE_RETURNS_BOOL" request.classification.deleteReturnsBool]

def querySource (request : Request) : List String := request.sourceWith "Read-only query" []

end Request

namespace Handler

def requestModule (handler : Handler) (contractModule : String) : String :=
  contractModule ++ "::" ++ (ArtifactKind.ofRequest handler.classification.kind).folder ++ "::" ++
    Naming.fileStem handler.requestName

/-- The body of a fresh handler: complete if there is nothing to answer, else a placeholder. -/
def body (handler : Handler) : String :=
  if handler.classification.isUnit then "Ok(())"
  else "todo!(\"implement " ++ handler.name ++ "\")"

def source (handler : Handler) (contractModule : String) : List String :=
  let request := handler.requestName
  let response := request ++ "Response"
  let argument := handler.classification.kind.text
  ["// Generated once by cqrsgen. This file belongs to you: it is never overwritten,",
    "// delete it to have it generated again.",
    "",
    "use " ++ handler.requestModule contractModule ++ "::\x7b " ++ request ++ ", " ++ response ++
      " \x7d;",
    "",
    "/// Handles [`" ++ request ++ "`].",
    "///",
    "/// Returns `" ++ handler.classification.dtoResponseType.render ++
      "` on the contract side; the domain result is `" ++
      handler.classification.responseType.render ++ "`.",
    "#[derive(Debug, Default)]",
    "pub struct " ++ handler.name ++ ";",
    "",
    "impl " ++ handler.name ++ " \x7b",
    "    pub fn handle(&self, " ++ argument ++ ": " ++ request ++ ") -> anyhow::Result<" ++
      response ++ "> \x7b",
    "        let _ = " ++ argument ++ ";",
    "        " ++ handler.body,
    "    \x7d",
    "\x7d"]

end Handler

namespace RuleCheck

def literal (bound : Float) : String := String.ofList (Decimal.FloatFormat.literal.render bound)

def plain (bound : Float) : String := String.ofList (Decimal.FloatFormat.plain.render bound)

def failure : RuleCheck → String
  | notEmpty => "value.is_empty()"
  | minLength count => "value.chars().count() < " ++ toString count
  | maxLength count => "value.chars().count() > " ++ toString count
  | minimum bound => "(*value as f64) < " ++ literal bound
  | maximum bound => "(*value as f64) > " ++ literal bound
  | minItems count => "value.len() < " ++ toString count
  | maxItems count => "value.len() > " ++ toString count
  | pattern text =>
    "!regex::Regex::new(" ++ quoted text ++ ").map(|re| re.is_match(value)).unwrap_or(false)"

def message : RuleCheck → String
  | notEmpty => "must not be empty"
  | minLength count => "must be at least " ++ toString count ++ " characters"
  | maxLength count => "must be at most " ++ toString count ++ " characters"
  | minimum bound => "must be at least " ++ plain bound
  | maximum bound => "must be at most " ++ plain bound
  | minItems count => "must contain at least " ++ toString count ++ " items"
  | maxItems count => "must contain at most " ++ toString count ++ " items"
  | pattern text => "must match " ++ text

end RuleCheck

def Rule.lines (rule : Rule) : List String :=
  (if rule.optional then
    ["        if let Some(value) = &dto." ++ rule.fieldName ++ " \x7b"]
  else
    ["        \x7b", "            let value = &dto." ++ rule.fieldName ++ ";"]) ++
  ["            if " ++ rule.check.failure ++ " \x7b",
    "                failures.push(ValidationFailure \x7b",
    "                    field: " ++ quoted rule.name ++ ",",
    "                    message: " ++ quoted rule.check.message ++ ".to_string(),",
    "                \x7d);",
    "            \x7d",
    "        \x7d"]

def Validator.source (validator : Validator) : List String :=
  header ("for `" ++ validator.dtoName ++ "`.") ++
  ["",
    "use super::super::dtos::" ++ Naming.fileStem validator.dtoName ++ "::" ++
      validator.dtoName ++ ";",
    "",
    "/// A single failed rule",
    "#[derive(Debug, Clone, PartialEq, Eq)]",
    "pub struct ValidationFailure \x7b",
    "    pub field: &'static str,",
    "    pub message: String,",
    "\x7d",
    "",
    "#[derive(Debug, Default)]",
    "pub struct " ++ validator.name ++ ";",
    "",
    "impl " ++ validator.name ++ " \x7b",
    "    /// Check every rule and report all failures at once.",
    "    pub fn validate(dto: &" ++ validator.dtoName ++
      ") -> Result<(), Vec<ValidationFailure>> \x7b",
    "        #[allow(unused_mut)]",
    "        let mut failures = Vec::new();"] ++
  validator.rules.flatMap Rule.lines ++
  ["        if failures.is_empty() \x7b",
    "            Ok(())",
    "        \x7d else \x7b",
    "            Err(failures)",
    "        \x7d",
    "    \x7d",
    "\x7d"]

def Instruction.source? (instruction : Instruction) : Option (List String) :=
  match instruction.subject, instruction.kind with
  | .dto dto, .dto => some dto.source
  | .validator validator, .validator => some validator.source
  | .request request, .command => some request.commandSource
  | .request request, .query => some request.querySource
  | .handler handler contractModule, .handler => some (handler.source contractModule)
  | _, _ => none

def Instruction.render (instruction : Instruction) : Except String String :=
  match instruction.source? with
  | some lines => .ok ("\n".intercalate lines)
  | none =>
    .error (instruction.kind.text ++ " instruction '" ++ instruction.name ++
      "' carries a mismatched context")

end ApiContracts
