import ApiContracts.Text.Basic
import ApiContracts.Text.PrintableTable

/-!
Quoted text: between double quotes, with escapes for the quote, the backslash, and everything
that would not show as itself.
-/

namespace ApiContracts.Text

def hexDigits (n : Nat) : List Char := Nat.toDigits 16 n

def isPlain (c : Char) : Bool :=
  let n := c.toNat
  if n < 0x7F then 0x20 ≤ n
  else !inRanges PrintableTable.attachingRanges n && !inRanges PrintableTable.invisibleRanges n

def escape (c : Char) : List Char :=
  match c with
  | '"' => ['\\', '"']
  | '\\' => ['\\', '\\']
  | '\n' => ['\\', 'n']
  | '\r' => ['\\', 'r']
  | '\t' => ['\\', 't']
  | _ =>
    if c.toNat == 0 then ['\\', '0']
    else if isPlain c then [c]
    else ['\\', 'u', '\x7b'] ++ hexDigits c.toNat ++ ['\x7d']

def quote (text : List Char) : List Char := ['"'] ++ text.flatMap escape ++ ['"']

end ApiContracts.Text
