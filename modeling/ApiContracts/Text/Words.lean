import ApiContracts.Text.Case
import ApiContracts.Text.Cluster

/-!
The words of an identifier, and the identifier written again in another convention.
-/

namespace ApiContracts.Text

namespace Cluster

/-- A cluster with two cases, written in the upper one. -/
def isUpper (cluster : Cluster) : Bool :=
  upper cluster != lower cluster && cluster == upper cluster

def isLower (cluster : Cluster) : Bool :=
  upper cluster != lower cluster && cluster == lower cluster

def isDigit (cluster : Cluster) : Bool := cluster.all isAsciiDigit

def isSeparator (cluster : Cluster) : Bool :=
  cluster == ['_'] || cluster == ['-'] || cluster == [' ']

/-- Whether a word ends after `cluster` because of what follows it: a capital or a digit after
a small letter, a digit after a capital, any letter after a digit, or a small letter two
places after a capital that another capital follows. -/
def endsWord (cluster : Cluster) (following : List Cluster) : Bool :=
  match following with
  | [] => false
  | next :: later =>
    (isLower cluster && (isUpper next || isDigit next)) ||
    (isUpper cluster && isDigit next) ||
    (isDigit cluster && (isLower next || isUpper next)) ||
    (isUpper cluster && isUpper next && later.head?.any isLower)

end Cluster

/-- The words that a nonempty row of clusters is cut into; two separators in a row enclose an
empty word. -/
def splitWords : List Cluster → List (List Char)
  | [] => [[]]
  | cluster :: rest =>
    if cluster.isSeparator then [] :: splitWords rest
    else if cluster.endsWord rest then cluster :: splitWords rest
    else match splitWords rest with
      | [] => [cluster]
      | word :: words => (cluster ++ word) :: words

def words (text : List Char) : List (List Char) :=
  match clusters text with
  | [] => []
  | pieces => splitWords pieces

def capitalize : List Char → List Char
  | [] => []
  | c :: rest => upperChar c ++ lower rest

def pascal (text : List Char) : List Char := ((words text).map capitalize).flatten

def snake (text : List Char) : List Char :=
  List.intercalate ['_'] ((words text).map lower)

end ApiContracts.Text
