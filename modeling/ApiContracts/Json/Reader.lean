import ApiContracts.Json.Number

/-!
JSON text read as a value: the whole text is one value with blanks around it, arrays and
objects are nested at most 127 deep, and escapes spell no half of a surrogate pair.
-/

namespace ApiContracts.Json

open Text

def isSpace (c : Char) : Bool := c == ' ' || c == '\n' || c == '\t' || c == '\r'

def skipSpaces (text : List Char) : List Char := text.dropWhile isSpace

def hexValue? (c : Char) : Option Nat :=
  if '0' ≤ c && c ≤ '9' then some (c.toNat - '0'.toNat)
  else if 'a' ≤ c && c ≤ 'f' then some (c.toNat - 'a'.toNat + 10)
  else if 'A' ≤ c && c ≤ 'F' then some (c.toNat - 'A'.toNat + 10)
  else none

def hexNumber? (digits : List Char) : Option Nat :=
  digits.foldlM (fun value c => (hexValue? c).map (value * 16 + ·)) 0

/-- The character of a code point, unless it is half of a surrogate pair or out of range. -/
def charOf? (code : Nat) : Option Char :=
  if h : code.isValidChar then some ⟨code.toUInt32, by
    have := h
    simp only [Nat.isValidChar] at this
    simp only [UInt32.isValidChar, Nat.isValidChar, Nat.toUInt32, UInt32.toNat_ofNat']
    omega⟩ else none

def readUnit (text : List Char) : Option (Nat × List Char) :=
  let digits := text.take 4
  if digits.length == 4 then (hexNumber? digits).map fun value => (value, text.drop 4) else none

def readUnicode (text : List Char) : Option (Char × List Char) :=
  match readUnit text with
  | none => none
  | some (unit, rest) =>
    if 0xD800 ≤ unit && unit ≤ 0xDBFF then
      match rest with
      | '\\' :: 'u' :: rest =>
        match readUnit rest with
        | some (low, rest) =>
          if 0xDC00 ≤ low && low ≤ 0xDFFF then
            (charOf? (0x10000 + (unit - 0xD800) * 0x400 + (low - 0xDC00))).map (·, rest)
          else none
        | none => none
      | _ => none
    else (charOf? unit).map (·, rest)

def readEscape (text : List Char) : Option (Char × List Char) :=
  match text with
  | '"' :: rest => some ('"', rest)
  | '\\' :: rest => some ('\\', rest)
  | '/' :: rest => some ('/', rest)
  | 'b' :: rest => some ('\x08', rest)
  | 'f' :: rest => some ('\x0c', rest)
  | 'n' :: rest => some ('\n', rest)
  | 'r' :: rest => some ('\r', rest)
  | 't' :: rest => some ('\t', rest)
  | 'u' :: rest => readUnicode rest
  | _ => none

def readString : (fuel : Nat) → List Char → List Char → Option (String × List Char)
  | 0, _, _ => none
  | fuel + 1, done, text =>
    match text with
    | [] => none
    | '"' :: rest => some (String.ofList done.reverse, rest)
    | '\\' :: rest =>
      match readEscape rest with
      | some (c, rest) => readString fuel (c :: done) rest
      | none => none
    | c :: rest => if c.toNat < 0x20 then none else readString fuel (c :: done) rest

def dropWord? (word text : List Char) : Option (List Char) :=
  if word.isPrefixOf text then some (text.drop word.length) else none

mutual

/-- Reads one value; `depth` bounds the nesting that is still allowed, and `fuel`, which twice the
number of characters is enough for, the values, the separators and the length of a string. -/
def readValue : (fuel depth : Nat) → List Char → Option (Json × List Char)
  | 0, _, _ => none
  | fuel + 1, depth, text =>
    match skipSpaces text with
    | [] => none
    | '"' :: rest => (readString fuel [] rest).map fun (value, rest) => (string value, rest)
    | '[' :: rest =>
      match depth with
      | 0 => none
      | depth + 1 =>
        match skipSpaces rest with
        | ']' :: rest => some (array [], rest)
        | _ => (readElements fuel depth rest).map fun (elements, rest) => (array elements, rest)
    | '\x7b' :: rest =>
      match depth with
      | 0 => none
      | depth + 1 =>
        match skipSpaces rest with
        | '\x7d' :: rest => some (object [], rest)
        | _ => (readMembers fuel depth rest).map fun (members, rest) => (ofMembers members, rest)
    | 'n' :: rest => (dropWord? "ull".toList rest).map fun rest => (null, rest)
    | 't' :: rest => (dropWord? "rue".toList rest).map fun rest => (bool true, rest)
    | 'f' :: rest => (dropWord? "alse".toList rest).map fun rest => (bool false, rest)
    | text => readNumber text

def readElements : (fuel depth : Nat) → List Char → Option (List Json × List Char)
  | 0, _, _ => none
  | fuel + 1, depth, text =>
    match readValue fuel depth text with
    | none => none
    | some (value, rest) =>
      match skipSpaces rest with
      | ',' :: rest => (readElements fuel depth rest).map fun (others, rest) =>
          (value :: others, rest)
      | ']' :: rest => some ([value], rest)
      | _ => none

def readMembers : (fuel depth : Nat) → List Char → Option (List (String × Json) × List Char)
  | 0, _, _ => none
  | fuel + 1, depth, text =>
    match skipSpaces text with
    | '"' :: rest =>
      match readString fuel [] rest with
      | none => none
      | some (key, rest) =>
        match skipSpaces rest with
        | ':' :: rest =>
          match readValue fuel depth rest with
          | none => none
          | some (value, rest) =>
            match skipSpaces rest with
            | ',' :: rest => (readMembers fuel depth rest).map fun (others, rest) =>
                ((key, value) :: others, rest)
            | '\x7d' :: rest => some ([(key, value)], rest)
            | _ => none
        | _ => none
    | _ => none

end

def readWithin? (depth : Nat) (text : String) : Option Json :=
  match readValue (2 * text.toList.length + 2) depth text.toList with
  | some (value, rest) => if (skipSpaces rest).isEmpty then some value else none
  | none => none

def maxDepth : Nat := 127

def read? (text : String) : Option Json := readWithin? maxDepth text

end ApiContracts.Json
