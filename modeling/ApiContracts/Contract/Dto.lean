import ApiContracts.Document

/-!
DTOs: the contract-side counterparts of models.
-/

namespace ApiContracts

open Text

def patternDelimiters : List Char := ['/', '"', '\x27']

/-- A pattern without blanks around it and without one pair of equal delimiters. -/
def stripDelimiters (pattern : String) : String :=
  let text := trim pattern.toList
  match text with
  | first :: rest =>
    if patternDelimiters.contains first && rest.getLast? == some first then
      String.ofList rest.dropLast
    else String.ofList text
  | [] => ""

structure DtoProperty where
  name : String
  fieldName : String
  type : TypeExpr
  required : Bool
  nullable : Bool
  description : Option String
  constraints : Constraints
  pattern : Option String
  boxed : Bool
deriving Repr

namespace DtoProperty

def ofProperty (property : Property) : DtoProperty :=
  { name := property.name
    fieldName := Naming.fieldName property.name
    type := property.type.toDto
    required := property.required
    nullable := property.nullable
    description := property.description
    constraints := property.constraints
    pattern := property.pattern.map stripDelimiters
    boxed := false }

def isOptional (property : DtoProperty) : Bool := !property.required || property.nullable

def fieldType (property : DtoProperty) : String :=
  let base :=
    if property.boxed then "Box<" ++ property.type.render ++ ">" else property.type.render
  if property.isOptional then "Option<" ++ base ++ ">" else base

/-- The DTO that the property holds directly, neither in an array nor in a map. -/
def directTarget? (property : DtoProperty) : Option String :=
  match property.type with
  | .reference name => some name
  | _ => none

end DtoProperty

structure Dto where
  name : String
  sourceModel : String
  description : Option String
  properties : List DtoProperty
  enumValues : List String
deriving Repr

namespace Dto

def ofModel (model : Model) : Dto :=
  { name := Naming.dtoName model.name
    sourceModel := model.name
    description := model.description
    properties := model.properties.map DtoProperty.ofProperty
    enumValues := model.enumValues }

def isEnum (dto : Dto) : Bool := !dto.enumValues.isEmpty

def directTargets (dto : Dto) : List String := dto.properties.filterMap (·.directTarget?)

end Dto

end ApiContracts
