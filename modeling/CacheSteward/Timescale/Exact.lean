import CacheSteward.Timescale

namespace CacheSteward

/-! Rational seconds, on which sums and comparisons of times are exact.

A rational time is shown as the double nearest to it.
-/

def nearestAmount (q : Rat) : Amount := .real (Decimal.nearest (q.num < 0) q.num.natAbs q.den)

instance : Timescale Rat where
  zero := 0
  plus a b := a + b
  minus a b := a - b
  less a b := decide (a < b)
  atMost a b := decide (a ≤ b)
  attempts whole part := .ok (max 1 (whole / part).ceil.toNat)
  settled := .ok
  showable _ := .ok ()
  value q := .ofAmount (nearestAmount q)
  roundedValue q := .ofAmount ((nearestAmount q).rounded 3)
  text q := (nearestAmount q).text
  wholeText q := (nearestAmount q).fixedText 0
  hundredthsText q := (nearestAmount q).fixedText 2

instance : LawfulTimescale Rat := ⟨nofun, nofun, nofun⟩

end CacheSteward
