/-!
Binary floating point numbers taken apart and put together: the float next to a quotient of
natural numbers, and the interval of reals that round to a float.
-/

namespace ApiContracts.Decimal

/-- A positive finite float: `mantissa · 2 ^ exponent`. -/
structure Binary where
  mantissa : Nat
  exponent : Int
  /-- The float below is only half as far away as the float above. -/
  nearBelow : Bool
deriving DecidableEq, Repr

namespace Binary

def ofBits (bits : Nat) : Binary :=
  let field : Nat := bits / Nat.pow 2 52 % Nat.pow 2 11
  let fraction : Nat := bits % Nat.pow 2 52
  if field == 0 then ⟨fraction, -1074, false⟩
  else ⟨fraction + Nat.pow 2 52, (field : Int) - 1075, fraction == 0 && field > 1⟩

def scale (n : Nat) (e : Int) : Nat × Nat :=
  if e ≥ 0 then (n * Nat.pow 2 e.toNat, 1) else (n, Nat.pow 2 (-e).toNat)

end Binary

def roundHalfEven (num den : Nat) : Nat :=
  let whole := num / den
  let rest := 2 * (num % den)
  if rest > den || (rest == den && whole % 2 == 1) then whole + 1 else whole

/-- The encoding of the float nearest to `num / den`, a tie going to the even mantissa; past
the largest float it is that of infinity. -/
def nearestBits (num den : Nat) : Nat :=
  if num == 0 then 0
  else
    let quotientAt (q : Int) : Nat × Nat :=
      if q ≥ 0 then (num, den * Nat.pow 2 q.toNat) else (num * Nat.pow 2 (-q).toNat, den)
    let estimate : Int := (num.log2 : Int) - den.log2 - 53
    let first := quotientAt estimate
    let chosen := if first.1 / first.2 ≥ Nat.pow 2 53 then estimate + 1 else estimate
    let q := max chosen (-1074)
    let pair := quotientAt q
    let mantissa := roundHalfEven pair.1 pair.2
    let bits :=
      if mantissa ≥ Nat.pow 2 52 then
        (q + 1075).toNat * Nat.pow 2 52 + (mantissa - Nat.pow 2 52)
      else mantissa
    min bits (2047 * Nat.pow 2 52)

def nearestFloat (digits : Nat) (exponent : Int) : Option Float :=
  let width : Int := (Nat.toDigits 10 digits).length
  if digits == 0 then some 0.0
  else if exponent + width > 320 then none
  else if exponent + width < -400 then some 0.0
  else
    let bits :=
      if exponent ≥ 0 then nearestBits (digits * Nat.pow 10 exponent.toNat) 1
      else nearestBits digits (Nat.pow 10 (-exponent).toNat)
    if bits ≥ 2047 * Nat.pow 2 52 then none else some (Float.ofBits bits.toUInt64)

end ApiContracts.Decimal
