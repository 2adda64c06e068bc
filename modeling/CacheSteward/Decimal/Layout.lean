import CacheSteward.Decimal.Nearest
import CacheSteward.Decimal.Shortest

namespace CacheSteward.Decimal

/-! How doubles are written.

`natural` writes the shortest decimal that names the value: positionally when the leading digit
stands between the ten-thousandths and the sixteenth place before the point, else with an exponent
of at least two digits.  `fixed`, `scientific` and `general` write a given number of places, rounded
from the exact value with a half going to the even neighbour.
-/

def zeros (count : Nat) : List Char := List.replicate count '0'

def digitsOf (n : Nat) : List Char := (toString n).toList

def exponentPart (mark : Char) (exponent : Int) : List Char :=
  let size := digitsOf exponent.natAbs
  mark :: (if exponent < 0 then '-' else '+') :: (zeros (2 - size.length) ++ size)

def Significand.natural (decimal : Significand) : List Char :=
  let digits := digitsOf decimal.digits
  let leading : Int := decimal.exponent + digits.length - 1
  if -4 ≤ leading && leading < 16 then
    if decimal.exponent ≥ 0 then digits ++ zeros decimal.exponent.toNat ++ ['.', '0']
    else if leading ≥ 0 then
      digits.take (leading.toNat + 1) ++ '.' :: digits.drop (leading.toNat + 1)
    else '0' :: '.' :: (zeros (-leading - 1).toNat ++ digits)
  else
    let fraction := digits.drop 1
    digits.take 1 ++ (if fraction.isEmpty then [] else '.' :: fraction) ++
      exponentPart 'e' leading

/-- The sign and the special values around a layout of the finite positive ones.  Zero is laid out
as given. -/
def around (x : Float) (zero : List Char) (layout : Nat → Int → Bool → List Char) : String :=
  match Expansion.of x with
  | .notANumber => "nan"
  | .infinite negative => if negative then "-inf" else "inf"
  | .finite negative mantissa exponent narrowBelow =>
      let body := if mantissa == 0 then zero else layout mantissa exponent narrowBelow
      String.ofList (if negative then '-' :: body else body)

def natural (x : Float) : String :=
  around x ['0', '.', '0'] fun mantissa exponent narrowBelow =>
    (shortest mantissa exponent narrowBelow).natural

/-- `scaled / 10 ^ places` with exactly that many places. -/
def placed (places scaled : Nat) : List Char :=
  let whole := digitsOf (scaled / Nat.pow 10 places)
  if places == 0 then whole
  else
    let fraction := digitsOf (scaled % Nat.pow 10 places)
    whole ++ '.' :: (zeros (places - fraction.length) ++ fraction)

def fixed (places : Nat) (x : Float) : String :=
  around x (placed places 0) fun mantissa exponent _ =>
    let (numerator, denominator) := scaledRatio mantissa exponent
    placed places (roundHalfEven (numerator * Nat.pow 10 places) denominator)

/-- `count` significant digits of a positive value and the place of the first one. -/
def significantDigits (count : Nat) (mantissa : Nat) (exponent : Int) : Nat × Int :=
  let leading := leadingPlace mantissa exponent - 1
  let place : Int := leading - (count - 1 : Nat)
  let (numerator, denominator) := scaledRatio mantissa exponent
  let rounded :=
    roundHalfEven (numerator * Nat.pow 10 (-place).toNat) (denominator * Nat.pow 10 place.toNat)
  if rounded == Nat.pow 10 count then (Nat.pow 10 (count - 1), leading + 1) else (rounded, leading)

/-- Drops the zeros that end a fraction, and the point when nothing is left after it. -/
def dropFractionZeros (cs : List Char) : List Char :=
  if cs.contains '.' then
    match cs.reverse.dropWhile (· == '0') with
    | '.' :: rest => rest.reverse
    | kept => kept.reverse
  else cs

/-- One digit before the point and `places` after it, with an exponent. -/
def scientific (mark : Char) (places : Nat) (x : Float) : String :=
  let lay (digits : Nat) (leading : Int) : List Char :=
    placed places digits ++ exponentPart mark leading
  around x (lay 0 0) fun mantissa exponent _ =>
    let (digits, leading) := significantDigits (places + 1) mantissa exponent
    lay digits leading

/-- `count` significant digits, positional or scientific after the size of the value.  Zeros that
end the fraction are dropped unless `keepZeros`, and then the point is always written. -/
def general (mark : Char) (keepZeros : Bool) (count : Nat) (x : Float) : String :=
  let count := max count 1
  let tidy (cs : List Char) : List Char :=
    if !keepZeros then dropFractionZeros cs
    else if cs.contains '.' then cs else cs ++ ['.']
  around x (tidy (placed (count - 1) 0)) fun mantissa exponent _ =>
    let (digits, leading) := significantDigits count mantissa exponent
    if -4 ≤ leading && leading < count then
      let places := ((count : Int) - 1 - leading).toNat
      tidy (placed places (digits * Nat.pow 10 (places + leading - (count - 1 : Nat)).toNat))
    else tidy (placed (count - 1) digits) ++ exponentPart mark leading

def roundPlaces (places : Nat) (x : Float) : Float :=
  match Expansion.of x with
  | .finite negative mantissa exponent _ =>
      let (numerator, denominator) := scaledRatio mantissa exponent
      nearest negative (roundHalfEven (numerator * Nat.pow 10 places) denominator)
        (Nat.pow 10 places)
  | _ => x

end CacheSteward.Decimal
