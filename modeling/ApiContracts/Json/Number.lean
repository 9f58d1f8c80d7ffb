import ApiContracts.Decimal.Binary
import ApiContracts.Json.Basic
import ApiContracts.Text.Basic

/-!
Numbers in JSON text. A number without fraction and exponent that fits 64 bits is exact. Any
other is scaled in floating point: as many leading digits as fit 64 bits make a float, which is
multiplied or divided by a power of ten, rounding once at each step.
-/

namespace ApiContracts.Json

open Text

def digitValue (c : Char) : Nat := c.toNat - '0'.toNat

def maxWord : Nat := Nat.pow 2 64 - 1

def powerOfTen (exponent : Nat) : Float :=
  (Decimal.nearestFloat 1 exponent).getD 0.0

/-- The float divided by as many powers `10 ^ 308` as the exponent has beyond `-308`, and what
is left of the exponent. -/
def shrink : (steps : Nat) → Float → Nat → Float × Nat
  | 0, value, exponent => (value, exponent)
  | steps + 1, value, exponent =>
    if exponent ≤ 308 || value == 0.0 then (value, exponent)
    else shrink steps (value / powerOfTen 308) (exponent - 308)

def scaled (significand : Nat) (exponent : Int) : Option Float :=
  let value := significand.toUInt64.toFloat
  if exponent ≥ 0 then
    if exponent > 308 then if value == 0.0 then some value else none
    else
      let product := value * powerOfTen exponent.toNat
      if product.isInf then none else some product
  else
    let (value, rest) := shrink 4 value (-exponent).toNat
    if rest > 308 then some 0.0 else some (value / powerOfTen rest)

structure Digits where
  significand : Nat
  /-- Digits that count for the magnitude only, less those behind the point. -/
  exponent : Int
  rest : List Char

def wholeDigits (significand : Nat) (dropped : Nat) : List Char → Digits
  | [] => ⟨significand, dropped, []⟩
  | c :: rest =>
    if !isAsciiDigit c then ⟨significand, dropped, c :: rest⟩
    else
      let next := significand * 10 + digitValue c
      if dropped == 0 && next ≤ maxWord then wholeDigits next 0 rest
      else wholeDigits significand (dropped + 1) rest

def fractionDigits (significand : Nat) (exponent : Int) : List Char → Digits
  | [] => ⟨significand, exponent, []⟩
  | c :: rest =>
    if !isAsciiDigit c then ⟨significand, exponent, c :: rest⟩
    else
      let next := significand * 10 + digitValue c
      if next ≤ maxWord then fractionDigits next (exponent - 1) rest
      else ⟨significand, exponent, rest.dropWhile isAsciiDigit⟩

def spelled (digits : List Char) : Nat :=
  digits.foldl (fun value c => value * 10 + digitValue c) 0

/-- Reads an exponent behind its letter and scales by it. An exponent beyond 31 bits makes a
number zero or too large, by its sign. -/
def readExponent (significand : Nat) (exponent : Int) (text : List Char) :
    Option (Float × List Char) :=
  let (isPositive, text) :=
    match text with
    | '+' :: rest => (true, rest)
    | '-' :: rest => (false, rest)
    | _ => (true, text)
  let digits := text.takeWhile isAsciiDigit
  let rest := text.dropWhile isAsciiDigit
  if digits.isEmpty then none
  else
    let amount := spelled digits
    if amount > Nat.pow 2 31 - 1 then
      if significand == 0 || !isPositive then some (0.0, rest) else none
    else
      let total := if isPositive then exponent + amount else exponent - amount
      (scaled significand total).map fun value => (value, rest)

def readFloat (whole : Digits) : Option (Float × List Char) :=
  match whole.rest with
  | '.' :: rest =>
    if !rest.head?.any isAsciiDigit then none
    else
      let digits := fractionDigits whole.significand whole.exponent rest
      match digits.rest with
      | 'e' :: rest | 'E' :: rest => readExponent digits.significand digits.exponent rest
      | rest => (scaled digits.significand digits.exponent).map fun value => (value, rest)
  | 'e' :: rest | 'E' :: rest => readExponent whole.significand whole.exponent rest
  | rest => (scaled whole.significand whole.exponent).map fun value => (value, rest)

def goesOn (rest : List Char) : Bool :=
  match rest with
  | c :: _ => c == '.' || c == 'e' || c == 'E'
  | [] => false

def readMagnitude (negative : Bool) (text : List Char) : Option (Json × List Char) :=
  let leadingZero := text.head? == some '0' && (text.drop 1).head?.any isAsciiDigit
  if !text.head?.any isAsciiDigit || leadingZero then none
  else
    let whole := wholeDigits 0 0 text
    if whole.exponent == 0 && !goesOn whole.rest then
      let value := whole.significand
      if !negative then some (integer value, whole.rest)
      else if value == 0 || value > Nat.pow 2 63 then
        some (float (-value.toUInt64.toFloat), whole.rest)
      else some (integer (-(value : Int)), whole.rest)
    else
      (readFloat whole).map fun (value, rest) =>
        (float (if negative then -value else value), rest)

def readNumber (text : List Char) : Option (Json × List Char) :=
  match text with
  | '-' :: rest => readMagnitude true rest
  | _ => readMagnitude false text

end ApiContracts.Json
