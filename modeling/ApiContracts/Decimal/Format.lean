import ApiContracts.Decimal.Shortest

/-!
Floats as text: shortest digits, in positional or exponent notation as a format decides.
-/

namespace ApiContracts.Decimal

/-- The decisions of a number format. The point position of `0.1` is 0, that of `1` is 1. -/
structure FloatFormat where
  least : Option Int
  greatest : Option Int
  marksWhole : Bool

/-- Numbers in generated expressions: a float literal, with exponent from 1e16 on and below
1e-4. -/
def FloatFormat.literal : FloatFormat := ⟨some (-3), some 16, true⟩

def FloatFormat.plain : FloatFormat := ⟨none, none, false⟩

/-- Numbers in JSON text: with exponent from 1e16 on and below 1e-5. -/
def FloatFormat.json : FloatFormat := ⟨some (-4), some 16, true⟩

namespace FloatFormat

def isPositional (format : FloatFormat) (point : Int) : Bool :=
  format.least.all (· ≤ point) && format.greatest.all (point ≤ ·)

def positional (format : FloatFormat) (digits : List Char) (point : Int) : List Char :=
  let mark := if format.marksWhole then ['.', '0'] else []
  if point ≤ 0 then ['0', '.'] ++ List.replicate (-point).toNat '0' ++ digits
  else if digits.length ≤ point.toNat then
    digits ++ List.replicate (point.toNat - digits.length) '0' ++ mark
  else digits.take point.toNat ++ ['.'] ++ digits.drop point.toNat

def exponential (digits : List Char) (point : Int) : List Char :=
  digits.take 1 ++ (if digits.length > 1 then '.' :: digits.drop 1 else []) ++
    ['e'] ++ (toString (point - 1)).toList

def renderDecimal (format : FloatFormat) (x : Decimal) : List Char :=
  let digits := Nat.toDigits 10 x.significand
  let point := x.exponent + digits.length
  if format.isPositional point then format.positional digits point
  else exponential digits point

def render (format : FloatFormat) (x : Float) : List Char :=
  let bits := x.toBits.toNat
  let magnitude := bits % Nat.pow 2 63
  let sign := if bits ≥ Nat.pow 2 63 then ['-'] else []
  if magnitude > 2047 * Nat.pow 2 52 then "NaN".toList
  else if magnitude == 2047 * Nat.pow 2 52 then sign ++ "inf".toList
  else if magnitude == 0 then sign ++ (if format.marksWhole then "0.0".toList else ['0'])
  else sign ++ format.renderDecimal (Binary.ofBits magnitude).shortest

end FloatFormat

end ApiContracts.Decimal
