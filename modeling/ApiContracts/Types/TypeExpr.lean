import ApiContracts.Naming
import ApiContracts.Types.Scalar

/-!
Type expressions: scalars, named models, and arrays and maps of these. A type is rendered as
text, lists the models it names, and has a counterpart that names their DTOs.
-/

namespace ApiContracts

inductive TypeExpr where
  | scalar (scalar : Scalar)
  | reference (name : String)
  | array (element : TypeExpr)
  | map (key value : TypeExpr)
deriving DecidableEq, Repr

namespace TypeExpr

def chars : TypeExpr → List Char
  | scalar s => s.spelling.toList
  | reference name => name.toList
  | array element => "Vec<".toList ++ element.chars ++ ['>']
  | map key value => "HashMap<".toList ++ key.chars ++ [',', ' '] ++ value.chars ++ ['>']

def render (type : TypeExpr) : String := String.ofList type.chars

def references : TypeExpr → List String
  | scalar _ => []
  | reference name => [name]
  | array element => element.references
  | map key value => key.references ++ value.references

/-- The type with each model replaced by its DTO; map keys stay as they are. -/
def toDto : TypeExpr → TypeExpr
  | scalar s => scalar s
  | reference name => reference (Naming.dtoName name)
  | array element => array element.toDto
  | map key value => map key value.toDto

def isScalar : TypeExpr → Bool
  | scalar _ => true
  | _ => false

/-- Whether a type holds a map other than inside a map. -/
def usesMap : TypeExpr → Bool
  | map _ _ => true
  | array element => element.usesMap
  | scalar _ | reference _ => false

end TypeExpr

end ApiContracts
