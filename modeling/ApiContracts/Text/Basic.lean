/-!
Characters and their classes, and the operations that cut a text at them.
-/

namespace ApiContracts.Text

def inRanges (ranges : List (Nat × Nat)) (code : Nat) : Bool :=
  ranges.any fun range => range.1 ≤ code && code ≤ range.2

/-- The characters with Unicode's White_Space property. -/
def isBlank (c : Char) : Bool :=
  inRanges [(0x09, 0x0D), (0x20, 0x20), (0x85, 0x85), (0xA0, 0xA0), (0x1680, 0x1680),
    (0x2000, 0x200A), (0x2028, 0x2029), (0x202F, 0x202F), (0x205F, 0x205F),
    (0x3000, 0x3000)] c.toNat

def trimStart (text : List Char) : List Char := text.dropWhile isBlank

def dropEndWhile (drop : Char → Bool) (text : List Char) : List Char :=
  (text.reverse.dropWhile drop).reverse

def trimEnd (text : List Char) : List Char := dropEndWhile isBlank text

def trim (text : List Char) : List Char := trimEnd (trimStart text)

def splitAt (cut : Char → Bool) : List Char → List (List Char)
  | [] => [[]]
  | c :: rest =>
    if cut c then [] :: splitAt cut rest
    else match splitAt cut rest with
      | [] => [[c]]
      | piece :: pieces => (c :: piece) :: pieces

/-- The lines of a text; a line feed at the very end closes the last line and opens no other. -/
def lines (text : List Char) : List (List Char) :=
  let pieces := splitAt (· == '\n') text
  if pieces.getLast? == some [] then pieces.dropLast else pieces

def isAsciiAlphanumeric (c : Char) : Bool :=
  ('a' ≤ c && c ≤ 'z') || ('A' ≤ c && c ≤ 'Z') || ('0' ≤ c && c ≤ '9')

def isAsciiDigit (c : Char) : Bool := '0' ≤ c && c ≤ '9'

def lowerAscii (text : List Char) : List Char := text.map Char.toLower

def byteLength (text : List Char) : Nat :=
  text.foldr (fun c total => c.utf8Size + total) 0

def endsIn (ending text : List Char) : Bool := ending.reverse.isPrefixOf text.reverse

theorem endsIn_iff (ending text : List Char) : endsIn ending text = true ↔ ending <:+ text := by
  rw [endsIn, List.isPrefixOf_iff_prefix, List.reverse_prefix]

theorem splitAt_ne_nil (cut : Char → Bool) (text : List Char) : splitAt cut text ≠ [] := by
  cases text with
  | nil => simp [splitAt]
  | cons c rest =>
      rw [splitAt]
      split
      · simp
      · split <;> simp

end ApiContracts.Text
