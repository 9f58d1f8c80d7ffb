import ApiContracts.Decimal.Format
import ApiContracts.Json.Basic

/-!
JSON values as text: on one line, or with two spaces per level.
-/

namespace ApiContracts.Json

def fourDigits (n : Nat) : List Char :=
  let digits := Nat.toDigits 16 n
  List.replicate (4 - digits.length) '0' ++ digits

def escape (c : Char) : List Char :=
  match c with
  | '"' => ['\\', '"']
  | '\\' => ['\\', '\\']
  | '\n' => ['\\', 'n']
  | '\r' => ['\\', 'r']
  | '\t' => ['\\', 't']
  | '\x08' => ['\\', 'b']
  | '\x0c' => ['\\', 'f']
  | _ => if c.toNat < 0x20 then ['\\', 'u'] ++ fourDigits c.toNat else [c]

def quoteString (text : String) : String :=
  String.ofList (['"'] ++ text.toList.flatMap escape ++ ['"'])

/-- A float; what is no number is written as null. -/
def floatText (value : Float) : String :=
  if value.isNaN || value.isInf then "null"
  else String.ofList (Decimal.FloatFormat.json.render value)

mutual

def compact : Json → String
  | null => "null"
  | bool value => toString value
  | integer value => toString value
  | float value => floatText value
  | string value => quoteString value
  | array elements => "[" ++ ",".intercalate (compactElements elements) ++ "]"
  | object members => "\x7b" ++ ",".intercalate (compactMembers members) ++ "\x7d"

def compactElements : List Json → List String
  | [] => []
  | value :: rest => compact value :: compactElements rest

def compactMembers : List (String × Json) → List String
  | [] => []
  | (key, value) :: rest => (quoteString key ++ ":" ++ compact value) :: compactMembers rest

end

def block (opening closing indent : String) (items : List String) : String :=
  let inner := indent ++ "  "
  if items.isEmpty then opening ++ closing
  else opening ++ "\n" ++ ",\n".intercalate (items.map (inner ++ ·)) ++ "\n" ++ indent ++ closing

mutual

def pretty (indent : String) : Json → String
  | array elements => block "[" "]" indent (prettyElements (indent ++ "  ") elements)
  | object members => block "\x7b" "\x7d" indent (prettyMembers (indent ++ "  ") members)
  | value => compact value

def prettyElements (indent : String) : List Json → List String
  | [] => []
  | value :: rest => pretty indent value :: prettyElements indent rest

def prettyMembers (indent : String) : List (String × Json) → List String
  | [] => []
  | (key, value) :: rest =>
    (quoteString key ++ ": " ++ pretty indent value) :: prettyMembers indent rest

end

end ApiContracts.Json
