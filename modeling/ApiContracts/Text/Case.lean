import ApiContracts.Text.Basic
import ApiContracts.Text.CaseTable

/-!
Upper and lower case of whole texts, by Unicode's full mappings.
-/

namespace ApiContracts.Text

def mapCase (runs : List CaseTable.Run) (expansions : List (Nat × List Nat)) (c : Char) :
    List Char :=
  match expansions.find? (·.1 == c.toNat) with
  | some (_, codes) => codes.map Char.ofNat
  | none =>
    match runs.find? fun (first, last, step, _) =>
        first ≤ c.toNat && c.toNat ≤ last && (c.toNat - first) % step == 0 with
    | some (_, _, _, offset) => [Char.ofNat ((c.toNat : Int) + offset).toNat]
    | none => [c]

def lowerChar (c : Char) : List Char :=
  if c.toNat < 128 then [c.toLower] else mapCase CaseTable.lowerRuns CaseTable.lowerExpansions c

def upperChar (c : Char) : List Char :=
  if c.toNat < 128 then [c.toUpper] else mapCase CaseTable.upperRuns CaseTable.upperExpansions c

def startsCased (context : List Char) : Bool :=
  match context.dropWhile fun c => inRanges CaseTable.ignorableRanges c.toNat with
  | [] => false
  | c :: _ => inRanges CaseTable.casedRanges c.toNat

/-- Lower case after the characters in `before` (nearest first): a capital sigma that ends a
word becomes the final form. -/
def lowerAfter (before : List Char) : List Char → List Char
  | [] => []
  | c :: rest =>
    let image :=
      if c.toNat == 0x3A3 && startsCased before && !startsCased rest then [Char.ofNat 0x3C2]
      else lowerChar c
    image ++ lowerAfter (c :: before) rest

def lower (text : List Char) : List Char := lowerAfter [] text

def upper (text : List Char) : List Char := text.flatMap upperChar

end ApiContracts.Text
