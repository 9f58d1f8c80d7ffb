import ApiContracts.Decimal.Binary

/-!
Shortest decimals: the decimal with the fewest digits among those that round to a float.
-/

namespace ApiContracts

/-- A positive decimal `significand · 10 ^ exponent`. -/
structure Decimal where
  significand : Nat
  exponent : Int
deriving DecidableEq, Repr

namespace Decimal

def compareScaled (n : Nat) (k : Int) (num den : Nat) : Ordering :=
  if k ≥ 0 then compare (n * Nat.pow 10 k.toNat * den) num
  else compare (n * den) (num * Nat.pow 10 (-k).toNat)

/-- Whether `n · 10 ^ k` rounds to the float: it lies between the midpoints to the neighbours,
which themselves count exactly when the mantissa is even. -/
def Binary.attracts (x : Binary) (n : Nat) (k : Int) : Bool :=
  let below := Binary.scale (4 * x.mantissa - (if x.nearBelow then 1 else 2)) (x.exponent - 2)
  let above := Binary.scale (4 * x.mantissa + 2) (x.exponent - 2)
  let low := compareScaled n k below.1 below.2
  let high := compareScaled n k above.1 above.2
  if x.mantissa % 2 == 0 then low != .lt && high != .gt else low == .gt && high == .lt

def Binary.onGrid? (x : Binary) (k : Int) : Option Decimal :=
  let (num, den) := Binary.scale x.mantissa x.exponent
  let below :=
    if k ≥ 0 then num / (den * Nat.pow 10 k.toNat) else num * Nat.pow 10 (-k).toNat / den
  let next := below + 1
  match below != 0 && x.attracts below k, x.attracts next k with
  | false, false => none
  | true, false => some ⟨below, k⟩
  | false, true => some ⟨next, k⟩
  | true, true =>
    if compareScaled (below + next) k (2 * num) den == .gt then some ⟨below, k⟩
    else some ⟨next, k⟩

def Binary.ceilingExponent (x : Binary) : Int :=
  let (num, den) := Binary.scale x.mantissa x.exponent
  if num ≥ den then (Nat.toDigits 10 (num / den)).length
  else 2 - ((Nat.toDigits 10 (den / num)).length : Int)

/-- The shortest decimal that rounds to the float: the first hit on finer and finer grids. -/
def Binary.shortest (x : Binary) : Decimal :=
  ((List.range 20).findSome? fun step : Nat => x.onGrid? (x.ceilingExponent - step)).getD ⟨0, 0⟩

end Decimal

end ApiContracts
