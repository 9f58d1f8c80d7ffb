import ApiContracts.Text.Basic

/-!
Slash-separated paths as texts: joining, the parent, the extension.
-/

namespace ApiContracts.Path

/-- The path that `leaf` names when read from `base`: an absolute leaf replaces the base, and a
slash goes between the two unless one is there. -/
def join (base leaf : String) : String :=
  if leaf.toList.head? == some '/' then leaf
  else if base.toList.isEmpty || base.toList.getLast? == some '/' then base ++ leaf
  else base ++ "/" ++ leaf

def pieces (path : String) : List (List Char) := Text.splitAt (· == '/') path.toList

def isAbsolute (path : String) : Bool := path.toList.head? == some '/'

/-- The positions of the pieces that are steps of the path: neither empty nor, behind the first
piece, a single dot. -/
def steps (path : String) : List (Nat × List Char) :=
  (pieces path).zipIdx.filterMap fun (piece, index) =>
    if piece.isEmpty || (piece == ['.'] && index != 0) then none else some (index, piece)

def parent? (path : String) : Option String :=
  match (steps path).reverse with
  | [] => none
  | [_] => some (if isAbsolute path then "/" else "")
  | _ :: (index, _) :: _ =>
    some (String.ofList (List.intercalate ['/'] ((pieces path).take (index + 1))))

def fileName? (path : String) : Option (List Char) :=
  match (steps path).getLast? with
  | none => none
  | some (_, name) => if name == ['.'] || name == ['.', '.'] then none else some name

def extension? (path : String) : Option (List Char) :=
  match fileName? path with
  | none => none
  | some name =>
    let ending := (name.reverse.takeWhile (· != '.')).reverse
    if ending.length + 1 < name.length then some ending else none

end ApiContracts.Path
