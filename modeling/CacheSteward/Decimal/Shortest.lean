import CacheSteward.Decimal.Expansion

namespace CacheSteward.Decimal

/-! The shortest decimal that names a double.

The reals that round to a double form an interval.  Of all decimals inside it the shortest is
taken, of two equally short ones the nearer, and on an exact tie the one with the even last digit.
The search tries one, two, … seventeen digits and looks only at the two neighbours of the value on
each grid.
-/

/-- `digits * 10 ^ exponent`. -/
structure Significand where
  digits : Nat
  exponent : Int
deriving Repr, DecidableEq

def compareScaled (a : Nat) (i : Int) (n : Nat) (j : Int) : Ordering :=
  compare (a * Nat.pow 10 i.toNat * Nat.pow 2 (-j).toNat)
    (n * Nat.pow 2 j.toNat * Nat.pow 10 (-i).toNat)

/-- The decimal lies among the reals that round to `mantissa * 2 ^ exponent`.  The ends of the
interval belong to it when the mantissa is even. -/
def readsBack (mantissa : Nat) (exponent : Int) (narrowBelow : Bool) (decimal : Significand) :
    Bool :=
  let lower := if narrowBelow then 4 * mantissa - 1 else 4 * mantissa - 2
  let upper := 4 * mantissa + 2
  let closed := mantissa % 2 == 0
  let below := compareScaled decimal.digits decimal.exponent lower (exponent - 2)
  let above := compareScaled decimal.digits decimal.exponent upper (exponent - 2)
  (below == .gt || (closed && below == .eq)) && (above == .lt || (closed && above == .eq))

/-- The least `k` with `mantissa * 2 ^ exponent < 10 ^ k`, searched upward from a value that is
never too large. -/
def leadingPlace (mantissa : Nat) (exponent : Int) : Int :=
  let bits : Int := (mantissa.log2 : Int) + exponent
  -- `2 ^ bits ≤ value`, and `30103 / 100000` is just above the decimal logarithm of two.
  let start : Int := if bits < 0 then (bits * 30103) / 100000 else (bits * 30102) / 100000
  ((List.range 4).map (fun step : Nat => start + (step : Int))).find?
    (fun k => compareScaled 1 k mantissa exponent == .gt) |>.getD (start + 4)

/-- The better of the value's two neighbours on the grid of multiples of `10 ^ place`. -/
def neighbourOnGrid? (mantissa : Nat) (exponent : Int) (narrowBelow : Bool) (place : Int) :
    Option Significand :=
  let numerator := mantissa * Nat.pow 2 exponent.toNat * Nat.pow 10 (-place).toNat
  let denominator := Nat.pow 2 (-exponent).toNat * Nat.pow 10 place.toNat
  let floor := numerator / denominator
  let low : Significand := ⟨floor, place⟩
  let high : Significand := ⟨floor + 1, place⟩
  match readsBack mantissa exponent narrowBelow low,
      readsBack mantissa exponent narrowBelow high with
  | true, true =>
      let twice := 2 * (numerator % denominator)
      if twice < denominator then some low
      else if twice > denominator then some high
      else if floor % 2 == 0 then some low else some high
  | true, false => some low
  | false, true => some high
  | false, false => none

def Significand.strip : Nat → Significand → Significand
  | 0, decimal => decimal
  | fuel + 1, decimal =>
      if decimal.digits != 0 && decimal.digits % 10 == 0 then
        strip fuel ⟨decimal.digits / 10, decimal.exponent + 1⟩
      else decimal

def exactDecimal (mantissa : Nat) (exponent : Int) : Significand :=
  ⟨mantissa * Nat.pow 2 exponent.toNat * Nat.pow 5 (-exponent).toNat, min exponent 0⟩

/-- The shortest decimal that names the positive double `mantissa * 2 ^ exponent`. -/
def shortest (mantissa : Nat) (exponent : Int) (narrowBelow : Bool) : Significand :=
  let leading := leadingPlace mantissa exponent
  let found := (List.range 17).findSome? fun (index : Nat) =>
    neighbourOnGrid? mantissa exponent narrowBelow (leading - 1 - (index : Int))
  (found.getD (exactDecimal mantissa exponent)).strip 20

end CacheSteward.Decimal
