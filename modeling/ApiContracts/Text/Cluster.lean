import ApiContracts.Text.Basic
import ApiContracts.Text.ClusterTable

/-!
Grapheme clusters: the pieces of a text that a reader takes for one character. Conjuncts of
Indic consonants are left apart; they hold neither cased letters nor separators.
-/

namespace ApiContracts.Text

abbrev Cluster := List Char

inductive ClusterRole where
  | carriageReturn | lineFeed | control | extend | joiner | regional | prepended | spacing
  | leading | vowel | trailing | syllable | closedSyllable | pictograph | other
deriving DecidableEq, Repr

namespace ClusterRole

def of (c : Char) : ClusterRole :=
  let n := c.toNat
  if n == 0x0D then .carriageReturn
  else if n == 0x0A then .lineFeed
  else if n < 0x20 then .control
  else if n < 0x7F then .other
  else if n == 0x200D then .joiner
  else if 0x1F1E6 ≤ n && n ≤ 0x1F1FF then .regional
  else if inRanges [(0x1100, 0x115F), (0xA960, 0xA97C)] n then .leading
  else if inRanges [(0x1160, 0x11A7), (0xD7B0, 0xD7C6)] n then .vowel
  else if inRanges [(0x11A8, 0x11FF), (0xD7CB, 0xD7FB)] n then .trailing
  else if 0xAC00 ≤ n && n ≤ 0xD7A3 then
    if (n - 0xAC00) % 28 == 0 then .syllable else .closedSyllable
  else if inRanges ClusterTable.extendRanges n then .extend
  else if inRanges ClusterTable.spacingRanges n then .spacing
  else if inRanges ClusterTable.prependRanges n then .prepended
  else if inRanges ClusterTable.controlRanges n then .control
  else if inRanges ClusterTable.pictographRanges n then .pictograph
  else .other

def isControl : ClusterRole → Bool
  | .carriageReturn | .lineFeed | .control => true
  | _ => false

end ClusterRole

structure ClusterTail where
  last : ClusterRole
  pictographOpen : Bool
  /-- The cluster ends in a pictograph, such marks and a joiner. -/
  pictographJoined : Bool
  /-- The cluster ends in an odd number of regional indicators. -/
  regionalOpen : Bool

namespace ClusterTail

def push (tail : Option ClusterTail) (role : ClusterRole) : ClusterTail where
  last := role
  pictographOpen := role == .pictograph || (role == .extend && tail.any (·.pictographOpen))
  pictographJoined := role == .joiner && tail.any (·.pictographOpen)
  regionalOpen := role == .regional && !tail.any (·.regionalOpen)

def joins (tail : ClusterTail) (role : ClusterRole) : Bool :=
  match tail.last, role with
  | .carriageReturn, .lineFeed => true
  | last, next =>
    if last.isControl || next.isControl then false
    else match last, next with
      | .leading, .leading | .leading, .vowel | .leading, .syllable | .leading, .closedSyllable
      | .syllable, .vowel | .vowel, .vowel | .syllable, .trailing | .vowel, .trailing
      | .closedSyllable, .trailing | .trailing, .trailing => true
      | _, .extend | _, .joiner | _, .spacing | .prepended, _ => true
      | _, .pictograph => tail.pictographJoined
      | .regional, .regional => tail.regionalOpen
      | _, _ => false

end ClusterTail

/-- Clusters of a text that continues the cluster with the given tail; the first piece is what
still joins that cluster. -/
def clustersAfter : ClusterTail → List Char → Cluster × List Cluster
  | _, [] => ([], [])
  | tail, c :: rest =>
    let role := ClusterRole.of c
    if tail.joins role then
      let (piece, pieces) := clustersAfter (ClusterTail.push (some tail) role) rest
      (c :: piece, pieces)
    else
      let (piece, pieces) := clustersAfter (ClusterTail.push none role) rest
      ([], (c :: piece) :: pieces)

def clusters : List Char → List Cluster
  | [] => []
  | c :: rest =>
    let (piece, pieces) := clustersAfter (ClusterTail.push none (ClusterRole.of c)) rest
    (c :: piece) :: pieces

end ApiContracts.Text
