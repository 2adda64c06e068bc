namespace CacheSteward.Decimal

/-! Doubles as exact numbers.

A finite double is a signed natural times a power of two.  Everything that has to be decided
exactly about a double (which integer bounds it, which decimal names it, how it compares with an
integer of any size) is decided on this expansion, in `Nat` and `Int`.
-/

inductive Expansion where
  | notANumber
  | infinite (negative : Bool)
  /-- `mantissa * 2 ^ exponent`.  `narrowBelow` says that the neighbour below is half as far away
  as the neighbour above, which is so at a power of two. -/
  | finite (negative : Bool) (mantissa : Nat) (exponent : Int) (narrowBelow : Bool)
deriving Repr, DecidableEq

namespace Expansion

def ofBits (bits : UInt64) : Expansion :=
  let negative := bits >>> 63 == 1
  let biased := ((bits >>> 52) &&& 0x7FF).toNat
  let fraction := (bits &&& 0xFFFFFFFFFFFFF).toNat
  if biased == 0x7FF then
    if fraction == 0 then .infinite negative else .notANumber
  else if biased == 0 then .finite negative fraction (-1074) false
  else
    .finite negative (Nat.pow 2 52 + fraction) ((biased : Int) - 1075)
      (fraction == 0 && biased > 1)

def of (x : Float) : Expansion := ofBits x.toBits

end Expansion

/-- `mantissa * 2 ^ exponent` as a quotient of naturals. -/
def scaledRatio (mantissa : Nat) (exponent : Int) : Nat × Nat :=
  (mantissa * Nat.pow 2 exponent.toNat, Nat.pow 2 (-exponent).toNat)

/-- The whole part toward zero; `none` for infinities and for not-a-number. -/
def truncate? (x : Float) : Option Int :=
  match Expansion.of x with
  | .finite negative mantissa exponent _ =>
      let (numerator, denominator) := scaledRatio mantissa exponent
      let size : Int := (numerator / denominator : Nat)
      some (if negative then -size else size)
  | _ => none

/-- The least integer that is not below; `none` for infinities and for not-a-number. -/
def ceiling? (x : Float) : Option Int :=
  match Expansion.of x with
  | .finite negative mantissa exponent _ =>
      let (numerator, denominator) := scaledRatio mantissa exponent
      some (if negative then -((numerator / denominator : Nat) : Int)
        else (((numerator + (denominator - 1)) / denominator : Nat) : Int))
  | _ => none

/-- The order of an integer of any size and a double; `none` against not-a-number. -/
def compareWhole (n : Int) (x : Float) : Option Ordering :=
  match Expansion.of x with
  | .notANumber => none
  | .infinite negative => some (if negative then .gt else .lt)
  | .finite negative mantissa exponent _ =>
      let (numerator, denominator) := scaledRatio mantissa exponent
      let signed : Int := if negative then -(numerator : Int) else numerator
      some (compare (n * denominator) signed)

theorem scaledRatio_pos (mantissa : Nat) (exponent : Int) :
    0 < (scaledRatio mantissa exponent).2 :=
  Nat.two_pow_pos _

/-- A double that compares equal with an integer has that integer as its whole part. -/
theorem truncate?_of_compareWhole {n : Int} {x : Float} (equal : compareWhole n x = some .eq) :
    truncate? x = some n := by
  unfold compareWhole at equal
  unfold truncate?
  cases expanded : Expansion.of x with
  | notANumber => simp [expanded] at equal
  | infinite negative => cases negative <;> simp [expanded] at equal
  | finite negative mantissa exponent narrowBelow =>
      have positive := scaledRatio_pos mantissa exponent
      cases ratio : scaledRatio mantissa exponent with
      | mk numerator denominator =>
          simp only [expanded, ratio, Option.some.injEq, Std.compare_eq_iff_eq] at equal positive ⊢
          cases negative with
          | false =>
              have whole : (numerator : Int) / denominator = n := by
                rw [← show n * denominator = (numerator : Int) from equal]
                exact Int.mul_ediv_cancel n (by omega)
              exact whole
          | true =>
              have whole : (numerator : Int) / denominator = -n := by
                have size : (numerator : Int) = -n * denominator := by
                  have product : n * denominator = -(numerator : Int) := equal
                  rw [Int.neg_mul, product, Int.neg_neg]
                rw [size]
                exact Int.mul_ediv_cancel (-n) (by omega)
              simp only [if_true]
              omega

end CacheSteward.Decimal
