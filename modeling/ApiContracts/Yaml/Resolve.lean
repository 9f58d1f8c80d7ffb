import ApiContracts.Decimal.Binary
import ApiContracts.Json.Reader

/-!
What plain scalars of YAML stand for: null, truth values, whole numbers in four bases, floats,
and otherwise text.
-/

namespace ApiContracts.Yaml

open Text

def nullWords : List String := ["null", "Null", "NULL", "~"]

def truth? (text : String) : Option Bool :=
  if ["true", "True", "TRUE"].contains text then some true
  else if ["false", "False", "FALSE"].contains text then some false
  else none

def digitIn? (base : Nat) (c : Char) : Option Nat :=
  (Json.hexValue? c).bind fun value => if value < base then some value else none

def numberIn? (base : Nat) (digits : List Char) : Option Nat :=
  if digits.isEmpty then none
  else digits.foldlM (fun value c => (digitIn? base c).map (value * base + ·)) 0

/-- Whether digits are text because they start with a zero. -/
def isPadded (text : List Char) : Bool :=
  let digits :=
    match text with
    | '-' :: rest | '+' :: rest => rest
    | _ => text
  digits.length > 1 && digits.head? == some '0' && digits.all isAsciiDigit

def magnitude? (text : List Char) : Option Nat :=
  match text with
  | '0' :: 'x' :: rest => numberIn? 16 rest
  | '0' :: 'o' :: rest => numberIn? 8 rest
  | '0' :: 'b' :: rest => numberIn? 2 rest
  | _ => if isPadded text then none else numberIn? 10 text

def integer? (text : List Char) : Option Int :=
  match text with
  | '-' :: rest => (magnitude? rest).map fun value => -(value : Int)
  | '+' :: rest => (magnitude? rest).map Int.ofNat
  | _ => (magnitude? text).map Int.ofNat

def mantissa? (text : List Char) : Option (Nat × Nat) :=
  let whole := text.takeWhile isAsciiDigit
  let rest := text.dropWhile isAsciiDigit
  let fraction :=
    match rest with
    | [] => some []
    | '.' :: digits => if digits.all isAsciiDigit then some digits else none
    | _ => none
  fraction.bind fun fraction =>
    if whole.isEmpty && fraction.isEmpty then none
    else some (Json.spelled (whole ++ fraction), fraction.length)

def exponent? (text : List Char) : Option Int :=
  match text with
  | '-' :: rest => (numberIn? 10 rest).map fun value => -(value : Int)
  | '+' :: rest => (numberIn? 10 rest).map Int.ofNat
  | _ => (numberIn? 10 text).map Int.ofNat

def decimal? (text : List Char) : Option Float :=
  let isMark (c : Char) : Bool := c == 'e' || c == 'E'
  let exponent :=
    match text.dropWhile (!isMark ·) with
    | [] => some 0
    | _ :: rest => exponent? rest
  match mantissa? (text.takeWhile (!isMark ·)), exponent with
  | some (digits, places), some exponent => Decimal.nearestFloat digits (exponent - places)
  | _, _ => none

def float? (text : List Char) : Option Json :=
  let unsigned :=
    match text with
    | '+' :: rest => if rest.head? == some '-' || rest.head? == some '+' then [] else rest
    | _ => text
  let word := String.ofList unsigned
  let exact := String.ofList text
  if [".inf", ".Inf", ".INF"].contains word then some .null
  else if ["-.inf", "-.Inf", "-.INF", ".nan", ".NaN", ".NAN"].contains exact then some .null
  else
    match unsigned with
    | '-' :: rest => (decimal? rest).map fun value => .float (-value)
    | _ => (decimal? unsigned).map .float

/-- A whole number as a value; one beyond 64 bits but within 128 is refused. -/
def integerValue? (value : Int) : Option Json :=
  if -Int.ofNat (Nat.pow 2 63) ≤ value && value < Int.ofNat (Nat.pow 2 64) then
    some (.integer value)
  else none

def isWide (value : Int) : Bool :=
  -Int.ofNat (Nat.pow 2 127) ≤ value && value < Int.ofNat (Nat.pow 2 128)

def wideInteger? (text : List Char) : Option Int :=
  (integer? text).bind fun value => if isWide value then some value else none

def plainValue? (text : String) : Option Json :=
  let chars := text.toList
  if text.isEmpty || nullWords.contains text then some .null
  else match truth? text with
    | some value => some (.bool value)
    | none =>
      match wideInteger? chars with
      | some value => integerValue? value
      | none =>
        if isPadded chars then some (.string text)
        else some ((float? chars).getD (.string text))

def taggedValue? (tag text : String) : Option Json :=
  let chars := text.toList
  if tag == "tag:yaml.org,2002:null" then if nullWords.contains text then some .null else none
  else if tag == "tag:yaml.org,2002:bool" then (truth? text).map .bool
  else if tag == "tag:yaml.org,2002:int" then (wideInteger? chars).bind integerValue?
  else if tag == "tag:yaml.org,2002:float" then float? chars
  else some (.string text)

end ApiContracts.Yaml
