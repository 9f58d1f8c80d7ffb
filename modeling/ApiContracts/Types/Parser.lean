import ApiContracts.Types.TypeExpr

/-!
Declared types: texts such as `Vec<Pet>` or `Dictionary<string, int>` read as type expressions.
A phrase is `()`, a path, or a path with arguments between angle brackets, with blanks allowed
around every token; a word decides what its phrase means.
-/

namespace ApiContracts

open Text

inductive TypeFault.Cause where
  | trailingInput
  | missingName
  | tuple
  | openArguments
  | arrayArity
  | mapArity
  | unsupportedGeneric
deriving DecidableEq, Repr

namespace TypeFault.Cause

def message : TypeFault.Cause → String
  | trailingInput => "unexpected trailing input"
  | missingName => "expected a type name"
  | tuple => "tuple types are not supported"
  | openArguments => "expected ',' or '>'"
  | arrayArity => "array container takes exactly one type argument"
  | mapArity => "map container takes exactly two type arguments"
  | unsupportedGeneric => "unsupported generic type"

end TypeFault.Cause

structure TypeFault where
  cause : TypeFault.Cause
  offset : Nat
deriving DecidableEq, Repr

def TypeFault.message (fault : TypeFault) : String :=
  fault.cause.message ++ " at offset " ++ toString fault.offset

namespace TypeExpr

def arrayContainers : List String :=
  ["Vec", "List", "IList", "IEnumerable", "ICollection", "IReadOnlyList", "HashSet", "BTreeSet",
    "array"]

def mapContainers : List String :=
  ["HashMap", "BTreeMap", "Dictionary", "IDictionary", "IReadOnlyDictionary", "map"]

structure Cursor where
  rest : List Char
  offset : Nat
deriving Repr

namespace Cursor

def skipBlanks (cursor : Cursor) : Cursor :=
  ⟨cursor.rest.dropWhile isBlank, cursor.offset + byteLength (cursor.rest.takeWhile isBlank)⟩

def eat? (mark : Char) (cursor : Cursor) : Option Cursor :=
  match cursor.skipBlanks with
  | ⟨c :: rest, offset⟩ => if c == mark then some ⟨rest, offset + 1⟩ else none
  | ⟨[], _⟩ => none

def fault {α : Type} (cursor : Cursor) (cause : TypeFault.Cause) : Except TypeFault α :=
  .error ⟨cause, cursor.offset⟩

def wordTo (start stop : Cursor) : List Char :=
  (start.rest.take (start.rest.length - stop.rest.length)).filter (!isBlank ·)

end Cursor

def isPathChar (c : Char) : Bool := isAsciiAlphanumeric c || c == '_' || c == '-' || c == '?'

def pathLength : List Char → Nat
  | ':' :: ':' :: rest => pathLength rest + 2
  | c :: rest => if isPathChar c then pathLength rest + 1 else 0
  | [] => 0

/-- The meaning of a path with its arguments; `argumentText` is what stands behind the path. -/
def interpret (isModel : String → Bool) (path argumentText : List Char)
    (arguments : List TypeExpr) : Except TypeFault.Cause TypeExpr :=
  let word := String.ofList (Scalar.lastSegment path)
  if word == "Vec" && argumentText == "<u8>".toList then .ok (scalar .binary)
  else if arrayContainers.contains word then
    match arguments with
    | [element] => .ok (array element)
    | _ => .error .arrayArity
  else if mapContainers.contains word then
    match arguments with
    | [key, value] => .ok (map key value)
    | _ => .error .mapArity
  else if arguments.isEmpty && isModel (String.ofList path) then
    .ok (reference (String.ofList path))
  else
    match Scalar.ofName? path with
    | some s => .ok (scalar s)
    | none =>
      if arguments.isEmpty then .ok (reference (String.ofList path))
      else .error .unsupportedGeneric

mutual

/-- Reads one type; `fuel` bounds the number of nested and neighbouring types. -/
def parseType (isModel : String → Bool) : (fuel : Nat) → Cursor →
    Except TypeFault (TypeExpr × Cursor)
  | 0, cursor => cursor.fault .missingName
  | fuel + 1, cursor =>
    match cursor.eat? '(' with
    | some inside =>
      match inside.eat? ')' with
      | some after => .ok (scalar .unit, after)
      | none => inside.skipBlanks.fault .tuple
    | none =>
      let start := cursor.skipBlanks
      let length := pathLength start.rest
      if length == 0 then start.fault .missingName
      else
        let path := start.rest.take length
        let behind : Cursor := ⟨start.rest.drop length, start.offset + length⟩
        match behind.eat? '<' with
        | none =>
          match interpret isModel path [] [] with
          | .ok type => .ok (type, behind.skipBlanks)
          | .error cause => behind.skipBlanks.fault cause
        | some inside =>
          match parseArguments isModel fuel inside with
          | .error fault => .error fault
          | .ok (arguments, after) =>
            match interpret isModel path (behind.wordTo after) arguments with
            | .ok type => .ok (type, after)
            | .error cause => after.fault cause

def parseArguments (isModel : String → Bool) : (fuel : Nat) → Cursor →
    Except TypeFault (List TypeExpr × Cursor)
  | 0, cursor => cursor.fault .missingName
  | fuel + 1, cursor =>
    match parseType isModel fuel cursor with
    | .error fault => .error fault
    | .ok (first, behind) =>
      match behind.eat? ',' with
      | some next =>
        match parseArguments isModel fuel next with
        | .error fault => .error fault
        | .ok (others, after) => .ok (first :: others, after)
      | none =>
        match behind.eat? '>' with
        | some after => .ok ([first], after)
        | none => behind.skipBlanks.fault .openArguments

end

/-- Reads a whole text as one type. Bare names that satisfy `isModel` are references even where
they spell a scalar. -/
def parse (isModel : String → Bool) (text : String) : Except TypeFault TypeExpr :=
  match parseType isModel (2 * text.toList.length + 2) ⟨text.toList, 0⟩ with
  | .error fault => .error fault
  | .ok (type, behind) =>
    if behind.skipBlanks.rest.isEmpty then .ok type
    else behind.skipBlanks.fault .trailingInput

end TypeExpr

end ApiContracts
