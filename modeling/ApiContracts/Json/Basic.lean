/-!
JSON values. An object keeps its members in ascending order of their keys, each key once.
-/

namespace ApiContracts

/-- A JSON value. Whole numbers of at most 64 bits are exact, all others are floats. -/
inductive Json where
  | null
  | bool (value : Bool)
  | integer (value : Int)
  | float (value : Float)
  | string (value : String)
  | array (elements : List Json)
  | object (members : List (String × Json))
deriving Repr, Inhabited

namespace Json

def insertMember {α : Type} (key : String) (value : α) :
    List (String × α) → List (String × α)
  | [] => [(key, value)]
  | (first, kept) :: rest =>
    if key == first then (key, value) :: rest
    else if key < first then (key, value) :: (first, kept) :: rest
    else (first, kept) :: insertMember key value rest

/-- The members in ascending order; of several with one key the last counts. -/
def sortMembers {α : Type} (members : List (String × α)) : List (String × α) :=
  members.foldl (fun sorted member => insertMember member.1 member.2 sorted) []

def ofMembers (members : List (String × Json)) : Json := object (sortMembers members)

def member? (value : Json) (key : String) : Option Json :=
  match value with
  | object members => members.lookup key
  | _ => none

def asString? : Json → Option String
  | string value => some value
  | _ => none

def asBool? : Json → Option Bool
  | bool value => some value
  | _ => none

def asNat? : Json → Option Nat
  | integer (.ofNat value) => some value
  | _ => none

def asFloat? : Json → Option Float
  | integer value => some (Float.ofInt value)
  | float value => some value
  | _ => none

def asArray? : Json → Option (List Json)
  | array elements => some elements
  | _ => none

def asObject? : Json → Option (List (String × Json))
  | object members => some members
  | _ => none

end Json

end ApiContracts
