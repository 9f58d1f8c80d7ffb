import ApiContracts.Text.Basic

/-!
Positions in YAML text, its character classes and its line breaks.
-/

namespace ApiContracts.Yaml

def isAllowed (c : Char) : Bool :=
  let n := c.toNat
  n == 0x09 || n == 0x0A || n == 0x0D || (0x20 ≤ n && n ≤ 0x7E) || n == 0x85 ||
    (0xA0 ≤ n && n ≤ 0xFFFD) || 0x10000 ≤ n

def isBlank (c : Char) : Bool := c == ' ' || c == '\t'

def isBreak (c : Char) : Bool :=
  c == '\n' || c == '\r' || c.toNat == 0x85 || c.toNat == 0x2028 || c.toNat == 0x2029

def isGap : Option Char → Bool
  | none => true
  | some c => isBlank c || isBreak c

def isLineEnd : Option Char → Bool
  | none => true
  | some c => isBreak c

def isWordChar (c : Char) : Bool := Text.isAsciiAlphanumeric c || c == '_' || c == '-'

structure Cursor where
  rest : List Char
  index : Nat
  line : Nat
  column : Nat
deriving Repr

namespace Cursor

def start (text : List Char) : Cursor := ⟨text, 0, 0, 0⟩

def head? (cursor : Cursor) : Option Char := cursor.rest.head?

def peek (cursor : Cursor) (n : Nat) : Option Char := (cursor.rest.drop n).head?

def at? (cursor : Cursor) (c : Char) : Bool := cursor.head? == some c

def skip (cursor : Cursor) (n : Nat) : Cursor :=
  { cursor with
    rest := cursor.rest.drop n, index := cursor.index + n, column := cursor.column + n }

def span (keep : Char → Bool) (cursor : Cursor) : List Char × Cursor :=
  let taken := cursor.rest.takeWhile keep
  (taken, cursor.skip taken.length)

def skipWhile (drop : Char → Bool) (cursor : Cursor) : Cursor := (cursor.span drop).2

def nextLine (cursor : Cursor) (n : Nat) : Cursor :=
  { rest := cursor.rest.drop n, index := cursor.index + n, line := cursor.line + 1, column := 0 }

/-- A line break as it counts in a scalar, and the cursor behind it. Separators that are no
plain breaks are kept as they are. -/
def readBreak (cursor : Cursor) : List Char × Cursor :=
  match cursor.rest with
  | '\r' :: '\n' :: _ => (['\n'], cursor.nextLine 2)
  | c :: _ =>
    if c.toNat == 0x2028 || c.toNat == 0x2029 then ([c], cursor.nextLine 1)
    else if isBreak c then (['\n'], cursor.nextLine 1)
    else ([], cursor)
  | [] => ([], cursor)

def atDocumentMark (cursor : Cursor) (mark : List Char) : Bool :=
  cursor.column == 0 && mark.isPrefixOf cursor.rest && isGap (cursor.peek 3)

def atAnyDocumentMark (cursor : Cursor) : Bool :=
  cursor.atDocumentMark ['-', '-', '-'] || cursor.atDocumentMark ['.', '.', '.']

end Cursor

end ApiContracts.Yaml
