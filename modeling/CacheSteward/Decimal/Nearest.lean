import CacheSteward.Decimal.Expansion

namespace CacheSteward.Decimal

/-! Rounding of exact quotients: to a whole number and to a double, a half going to the even
neighbour. -/

/-- `numerator / denominator` rounded to the nearest natural, a half to the even neighbour. -/
def roundHalfEven (numerator denominator : Nat) : Nat :=
  let whole := numerator / denominator
  let twice := 2 * (numerator % denominator)
  if twice < denominator then whole
  else if twice > denominator then whole + 1
  else if whole % 2 == 0 then whole else whole + 1

/-- The exponent of the last binary place that a double of this size keeps. -/
def lastPlace (numerator denominator : Nat) : Int :=
  let guess : Int := (numerator.log2 : Int) - (denominator.log2 : Int) - 52
  -- The quotient lies in `[2^(guess+51), 2^(guess+53))`, so one comparison settles the place.
  let settled :=
    if numerator * Nat.pow 2 (-(guess + 52)).toNat < denominator * Nat.pow 2 (guess + 52).toNat
    then guess - 1 else guess
  max settled (-1074)

/-- The double nearest to `numerator / denominator`, a half going to the even neighbour.  A
quotient that rounds past the largest double becomes the infinity. -/
def nearest (negative : Bool) (numerator denominator : Nat) : Float :=
  let place := lastPlace numerator denominator
  let mantissa :=
    roundHalfEven (numerator * Nat.pow 2 (-place).toNat) (denominator * Nat.pow 2 place.toNat)
  let (mantissa, place) :=
    if mantissa == Nat.pow 2 53 then (Nat.pow 2 52, place + 1) else (mantissa, place)
  let sign : Nat := if negative then Nat.pow 2 63 else 0
  let magnitude : Nat :=
    if mantissa < Nat.pow 2 52 then mantissa
    else if place > 971 then 0x7FF * Nat.pow 2 52
    else (place + 1075).toNat * Nat.pow 2 52 + (mantissa - Nat.pow 2 52)
  Float.ofBits (UInt64.ofNat (sign + magnitude))

def nearestWhole (n : Int) : Float := nearest (n < 0) n.natAbs 1

/-- The double nearest to `digits * 10 ^ exponent`.  Exponents far outside the range of doubles
are settled without forming the power. -/
def nearestDecimal (negative : Bool) (digits : Nat) (exponent : Int) : Float :=
  let zero : Float := if negative then -0.0 else 0.0
  if digits == 0 then zero
  else if exponent > 400 then nearest negative (Nat.pow 2 1100) 1
  else if exponent + (digits.log2 : Int) < -1200 then zero
  else nearest negative (digits * Nat.pow 10 exponent.toNat) (Nat.pow 10 (-exponent).toNat)

end CacheSteward.Decimal
