import CacheSteward.Decimal.Nearest
import CacheSteward.Decimal.Shortest
import Mathlib

namespace CacheSteward.Decimal

/-! Which double a number is rounded to.

A finite double has a mantissa and a last place, and the numbers near it are those that are rounded
to it: no farther than half a place away, and on a tie with an even mantissa.  The shortest decimal
of a double is near it, and what is near a double is taken to it.
-/

/-! ### Doubles -/

-- `Float.ofBits_toBits` and `Float.toBits_inj` come with the whole library only.

/-- The double with this sign, mantissa and exponent of the last place. -/
def packed (negative : Bool) (mantissa : Nat) (exponent : Int) : Float :=
  let sign : Nat := if negative then Nat.pow 2 63 else 0
  let magnitude : Nat :=
    if mantissa < Nat.pow 2 52 then mantissa
    else (exponent + 1075).toNat * Nat.pow 2 52 + (mantissa - Nat.pow 2 52)
  Float.ofBits (UInt64.ofNat (sign + magnitude))

/-- What a finite double expands to.  The mantissa has 53 bits, or fewer in the least place. -/
structure Normal (mantissa : Nat) (exponent : Int) (narrowBelow : Bool) : Prop where
  mantissa_lt : mantissa < 2 ^ 53
  least_le : -1074 ≤ exponent
  le_most : exponent ≤ 971
  full : -1074 < exponent → 2 ^ 52 ≤ mantissa
  narrow_iff : narrowBelow = true ↔ mantissa = 2 ^ 52 ∧ -1074 < exponent

namespace Expansion

variable {x : Float} {negative narrowBelow : Bool} {mantissa : Nat} {exponent : Int}

/-- The three fields of a double. -/
theorem of_eq (x : Float) : of x =
    if x.toBits.toNat / 2 ^ 52 % 2 ^ 11 = 0x7FF then
      if x.toBits.toNat % 2 ^ 52 = 0 then .infinite (x.toBits.toNat / 2 ^ 63 = 1) else .notANumber
    else if x.toBits.toNat / 2 ^ 52 % 2 ^ 11 = 0 then
      .finite (x.toBits.toNat / 2 ^ 63 = 1) (x.toBits.toNat % 2 ^ 52) (-1074) false
    else
      .finite (x.toBits.toNat / 2 ^ 63 = 1) (2 ^ 52 + x.toBits.toNat % 2 ^ 52)
        ((x.toBits.toNat / 2 ^ 52 % 2 ^ 11 : Nat) - 1075)
        (x.toBits.toNat % 2 ^ 52 = 0 && x.toBits.toNat / 2 ^ 52 % 2 ^ 11 > 1) := by
  have field : ((x.toBits >>> 52) &&& 0x7FF).toNat = x.toBits.toNat / 2 ^ 52 % 2 ^ 11 := by
    rw [UInt64.toNat_and, UInt64.toNat_shiftRight, Nat.shiftRight_eq_div_pow]
    exact Nat.and_two_pow_sub_one_eq_mod _ 11
  have fraction : (x.toBits &&& 0xFFFFFFFFFFFFF).toNat = x.toBits.toNat % 2 ^ 52 := by
    rw [UInt64.toNat_and]
    exact Nat.and_two_pow_sub_one_eq_mod _ 52
  have sign : (x.toBits >>> 63 == 1) = decide (x.toBits.toNat / 2 ^ 63 = 1) := by
    have shifted : (x.toBits >>> 63).toNat = x.toBits.toNat / 2 ^ 63 := by
      rw [UInt64.toNat_shiftRight, Nat.shiftRight_eq_div_pow]
      rfl
    rw [Bool.eq_iff_iff, beq_iff_eq, decide_eq_true_iff, ← shifted, ← UInt64.toNat_inj]
    rfl
  unfold of ofBits
  simp only [field, fraction, sign, beq_iff_eq]
  rfl

theorem sign_part (x : Float) :
    (if decide (x.toBits.toNat / 2 ^ 63 = 1) then 2 ^ 63 else 0) =
      x.toBits.toNat / 2 ^ 63 * 2 ^ 63 := by
  have word : x.toBits.toNat < 2 ^ 64 := x.toBits.toNat_lt
  simp only [decide_eq_true_eq]
  split <;> omega

theorem packed_eq (same : (if negative then 2 ^ 63 else 0) + (if mantissa < 2 ^ 52 then mantissa
    else (exponent + 1075).toNat * 2 ^ 52 + (mantissa - 2 ^ 52)) = x.toBits.toNat) :
    packed negative mantissa exponent = x := by
  unfold packed
  simp only [Nat.pow_eq]
  rw [same, UInt64.ofNat_toNat, Float.ofBits_toBits]

/-- A finite double is put together again from what it expands to. -/
theorem normal_of_finite (expanded : of x = .finite negative mantissa exponent narrowBelow) :
    Normal mantissa exponent narrowBelow ∧ packed negative mantissa exponent = x := by
  have word : x.toBits.toNat < 2 ^ 64 := x.toBits.toNat_lt
  rw [of_eq] at expanded
  split at expanded
  · split at expanded <;> cases expanded
  · split at expanded
    · rename_i least
      cases expanded
      refine ⟨⟨by omega, by omega, by omega, by omega, by simp⟩, packed_eq ?_⟩
      rw [sign_part, if_pos (by omega)]
      omega
    · rename_i special least
      cases expanded
      refine ⟨⟨by omega, by omega, by omega, by omega, ?_⟩, packed_eq ?_⟩
      · simp only [Bool.and_eq_true, decide_eq_true_eq]
        omega
      · rw [sign_part, if_neg (by omega)]
        omega

theorem eq_of_infinite (expanded : of x = .infinite negative) :
    x = if negative then -1.0 / 0.0 else 1.0 / 0.0 := by
  have word : x.toBits.toNat < 2 ^ 64 := x.toBits.toNat_lt
  have positive : (1.0 / 0.0 : Float).toBits = 0x7FF0000000000000 := by decide +kernel
  have below : (-1.0 / 0.0 : Float).toBits = 0xFFF0000000000000 := by decide +kernel
  rw [of_eq] at expanded
  split at expanded
  · split at expanded
    · cases expanded
      rw [← Float.toBits_inj, apply_ite Float.toBits, positive, below, ← UInt64.toNat_inj,
        apply_ite UInt64.toNat]
      simp only [decide_eq_true_eq]
      change _ = if _ then 0xFFF0000000000000 else 0x7FF0000000000000
      split <;> omega
    · cases expanded
  · split at expanded <;> cases expanded

open Float.Model Float.Model.UnpackedFloat in
/-- There is one bit pattern only for what is not a number. -/
theorem eq_of_notANumber (expanded : of x = .notANumber) : x = 0.0 / 0.0 := by
  have undefined : (0.0 / 0.0 : Float).toBits.toBitVec = packedNaN .binary64 := by decide +kernel
  have exponent : (@unpackExponent .binary64 x.toBits.toBitVec).toNat =
      x.toBits.toNat / 2 ^ 52 % 2 ^ 11 := by
    simp [unpackExponent, Nat.shiftRight_eq_div_pow]
  have mantissa : (@unpackMantissa .binary64 x.toBits.toBitVec).toNat =
      x.toBits.toNat % 2 ^ 52 := by
    simp [unpackMantissa, Nat.shiftRight_eq_div_pow]
  rw [of_eq] at expanded
  split at expanded
  · rename_i special
    split at expanded
    · cases expanded
    · rename_i fraction
      rw [← Float.toBits_inj, ← UInt64.toBitVec_inj, undefined]
      apply x.toModel.valid.eq_packedNaN
      · rw [← BitVec.toNat_inj]
        exact exponent.trans special
      · rw [ne_eq, ← BitVec.toNat_inj]
        exact fun zero => fraction (mantissa.symm.trans zero)
  · split at expanded <;> cases expanded

end Expansion

/-! ### Quotients -/

/-- Powers with a negative exponent are moved to the other side of a comparison. -/
theorem zpow_mul_toNat {b : ℚ} (nonzero : b ≠ 0) (i : Int) :
    b ^ i * b ^ (-i).toNat = b ^ i.toNat := by
  rw [← zpow_natCast, ← zpow_natCast, ← zpow_add₀ nonzero]
  congr 1
  omega

/-- What a quotient is rounded to, said of naturals. -/
theorem roundHalfEven_eq {numerator denominator m : Nat} (positive : 0 < denominator)
    (lower : 2 * m * denominator ≤ 2 * numerator + denominator)
    (upper : 2 * numerator ≤ (2 * m + 1) * denominator)
    (inside : m % 2 = 0 ∨ 2 * m * denominator < 2 * numerator + denominator ∧
      2 * numerator < (2 * m + 1) * denominator) :
    roundHalfEven numerator denominator = m := by
  have divided := Nat.div_add_mod numerator denominator
  have below := Nat.mod_lt numerator positive
  unfold roundHalfEven
  generalize numerator / denominator = whole at *
  generalize numerator % denominator = rest at *
  subst divided
  have near : whole = m ∨ whole + 1 = m := by
    rcases Nat.lt_trichotomy whole m with less | same | more
    · right
      by_contra apart
      have gap : whole + 2 ≤ m := by omega
      nlinarith
    · exact .inl same
    · nlinarith
  have spread : 2 * (denominator * whole + rest) = 2 * whole * denominator + 2 * rest := by ring
  rcases near with rfl | rfl
  · have half : 2 * rest ≤ denominator := by linarith
    have tie : 2 * rest = denominator → whole % 2 = 0 := by
      rcases inside with even | strict
      · exact fun _ => even
      · intro; nlinarith
    grind
  · have half : denominator ≤ 2 * rest := by linarith
    have tie : 2 * rest = denominator → (whole + 1) % 2 = 0 := by
      rcases inside with even | strict
      · exact fun _ => even
      · intro; nlinarith
    grind

/-- The numbers that are rounded to `m`. -/
structure RoundsTo (number : ℚ) (m : Nat) : Prop where
  lower : m - 1 / 2 ≤ number
  upper : number ≤ m + 1 / 2
  inside : m % 2 = 0 ∨ (m : ℚ) - 1 / 2 < number ∧ number < m + 1 / 2

theorem RoundsTo.roundHalfEven {numerator denominator m : Nat} (positive : 0 < denominator)
    (rounds : RoundsTo ((numerator : ℚ) / denominator) m) :
    Decimal.roundHalfEven numerator denominator = m := by
  have size : (0 : ℚ) < denominator := by exact_mod_cast positive
  obtain ⟨lower, upper, inside⟩ := rounds
  rw [le_div_iff₀ size] at lower
  rw [div_le_iff₀ size] at upper
  rw [lt_div_iff₀ size, div_lt_iff₀ size] at inside
  apply roundHalfEven_eq positive
  · have doubled : (2 : ℚ) * m * denominator ≤ 2 * numerator + denominator := by linarith
    exact_mod_cast doubled
  · have doubled : (2 : ℚ) * numerator ≤ (2 * m + 1) * denominator := by linarith
    exact_mod_cast doubled
  · refine inside.imp_right fun ⟨above, below⟩ => ⟨?_, ?_⟩
    · have doubled : (2 : ℚ) * m * denominator < 2 * numerator + denominator := by linarith
      exact_mod_cast doubled
    · have doubled : (2 : ℚ) * numerator < (2 * m + 1) * denominator := by linarith
      exact_mod_cast doubled

/-- Counting in places changes the parts of a quotient, and not what it is rounded to. -/
theorem roundHalfEven_scaled {numerator denominator m : Nat} {place : Int}
    (positive : 0 < denominator)
    (rounds : RoundsTo ((numerator : ℚ) / denominator / 2 ^ place) m) :
    roundHalfEven (numerator * Nat.pow 2 (-place).toNat) (denominator * Nat.pow 2 place.toNat) =
      m := by
  have size : (denominator : ℚ) ≠ 0 := by exact_mod_cast positive.ne'
  have scale : (2 : ℚ) ^ (-place).toNat ≠ 0 := by positivity
  have scaled : ((numerator * Nat.pow 2 (-place).toNat : Nat) : ℚ) /
      (denominator * Nat.pow 2 place.toNat : Nat) = numerator / denominator / 2 ^ place := by
    push_cast [Nat.pow_eq]
    rw [← zpow_mul_toNat two_ne_zero place]
    field_simp
  have divides : 0 < denominator * Nat.pow 2 place.toNat :=
    Nat.mul_pos positive (Nat.two_pow_pos _)
  exact RoundsTo.roundHalfEven divides (scaled ▸ rounds)

/-! ### The last place -/

section LastPlace

variable {numerator denominator : Nat}

/-- A quotient stands between the powers of two that the lengths of its parts give. -/
theorem log2_bounds (nonzero : 0 < numerator) (positive : 0 < denominator) :
    (2 : ℚ) ^ ((numerator.log2 : Int) - denominator.log2 - 1) < numerator / denominator ∧
      (numerator : ℚ) / denominator < 2 ^ ((numerator.log2 : Int) - denominator.log2 + 1) := by
  have size : (0 : ℚ) < denominator := by exact_mod_cast positive
  have between : ∀ {n : Nat}, 0 < n →
      (2 : ℚ) ^ (n.log2 : Int) ≤ n ∧ (n : ℚ) < 2 ^ ((n.log2 : Int) + 1) := by
    intro n some
    constructor
    · exact_mod_cast Nat.log2_self_le some.ne'
    · exact_mod_cast Nat.lt_log2_self (n := n)
  constructor
  · rw [lt_div_iff₀ size]
    calc (2 : ℚ) ^ ((numerator.log2 : Int) - denominator.log2 - 1) * denominator
        < 2 ^ ((numerator.log2 : Int) - denominator.log2 - 1) *
            2 ^ ((denominator.log2 : Int) + 1) :=
          mul_lt_mul_of_pos_left (between positive).2 (by positivity)
      _ = 2 ^ (numerator.log2 : Int) := by
          rw [← zpow_add₀ two_ne_zero]
          congr 1
          omega
      _ ≤ numerator := (between nonzero).1
  · rw [div_lt_iff₀ size]
    calc (numerator : ℚ) < 2 ^ ((numerator.log2 : Int) + 1) := (between nonzero).2
      _ = 2 ^ ((numerator.log2 : Int) - denominator.log2 + 1) * 2 ^ (denominator.log2 : Int) := by
          rw [← zpow_add₀ two_ne_zero]
          congr 1
          omega
      _ ≤ 2 ^ ((numerator.log2 : Int) - denominator.log2 + 1) * denominator :=
          mul_le_mul_of_nonneg_left (between positive).1 (by positivity)

theorem scaled_lt_iff (positive : 0 < denominator) (i : Int) :
    numerator * Nat.pow 2 (-i).toNat < denominator * Nat.pow 2 i.toNat ↔
      (numerator : ℚ) / denominator < 2 ^ i := by
  have size : (0 : ℚ) < denominator := by exact_mod_cast positive
  have scale : (0 : ℚ) < 2 ^ (-i).toNat := by positivity
  rw [div_lt_iff₀ size, ← mul_lt_mul_iff_left₀ scale, mul_right_comm, zpow_mul_toNat two_ne_zero,
    mul_comm _ (denominator : ℚ), Nat.pow_eq, Nat.pow_eq]
  exact_mod_cast Iff.rfl

/-- A quotient has 53 binary places, and fewer only when they end at the least one. -/
theorem lastPlace_eq {place : Int} (nonzero : 0 < numerator) (positive : 0 < denominator)
    (least : -1074 ≤ place) (above : (numerator : ℚ) / denominator < 2 ^ (place + 53))
    (full : -1074 < place → (2 : ℚ) ^ (place + 52) ≤ numerator / denominator) :
    lastPlace numerator denominator = place := by
  obtain ⟨below, beyond⟩ := log2_bounds nonzero positive
  have size : (numerator.log2 : Int) - denominator.log2 - 52 + 52 =
      (numerator.log2 : Int) - denominator.log2 := by omega
  have order : ∀ {i j : Int}, (2 : ℚ) ^ i < 2 ^ j → i < j :=
    fun less => (zpow_lt_zpow_iff_right₀ one_lt_two).mp less
  unfold lastPlace
  simp only [size, scaled_lt_iff positive]
  generalize (numerator.log2 : Int) - denominator.log2 = length at *
  have upper : length - 1 < place + 53 := order (below.trans above)
  have lower (exact : -1074 < place) : place + 52 < length + 1 :=
    order ((full exact).trans_lt beyond)
  split
  · rename_i shorter
    have short (exact : -1074 < place) : place + 52 < length :=
      order ((full exact).trans_lt shorter)
    omega
  · rename_i longer
    have long : length < place + 53 := order ((not_lt.mp longer).trans_lt above)
    omega

end LastPlace

/-! ### Near a double -/

/-- How far below a double the numbers near it begin, counted in its last place. -/
def gapBelow (narrowBelow : Bool) : ℚ := if narrowBelow then 1 / 4 else 1 / 2

theorem gapBelow_pos (narrowBelow : Bool) : 0 < gapBelow narrowBelow := by
  unfold gapBelow
  split <;> norm_num

theorem gapBelow_le (narrowBelow : Bool) : gapBelow narrowBelow ≤ 1 / 2 := by
  unfold gapBelow
  split <;> norm_num

/-- The numbers that are nearest to the double `mantissa * 2 ^ exponent`.  Halfway between two
doubles the one with the even mantissa is taken. -/
structure Near (mantissa : Nat) (exponent : Int) (narrowBelow : Bool) (number : ℚ) : Prop where
  lower : (mantissa - gapBelow narrowBelow) * 2 ^ exponent ≤ number
  upper : number ≤ (mantissa + 1 / 2) * 2 ^ exponent
  inside : mantissa % 2 = 0 ∨ (mantissa - gapBelow narrowBelow) * 2 ^ exponent < number ∧
    number < (mantissa + 1 / 2) * 2 ^ exponent

section Near

variable {mantissa : Nat} {exponent : Int} {narrowBelow : Bool} {number : ℚ}

theorem Near.pos (positive : 0 < mantissa)
    (near : Near mantissa exponent narrowBelow number) : 0 < number := by
  have one : (1 : ℚ) ≤ mantissa := by exact_mod_cast positive
  have gap := gapBelow_le narrowBelow
  exact lt_of_lt_of_le (mul_pos (by linarith) (by positivity)) near.lower

theorem near_self : Near mantissa exponent narrowBelow (mantissa * 2 ^ exponent) := by
  have unit : (0 : ℚ) < 2 ^ exponent := by positivity
  have gap := gapBelow_pos narrowBelow
  have below : (mantissa - gapBelow narrowBelow) * 2 ^ exponent < mantissa * 2 ^ exponent :=
    mul_lt_mul_of_pos_right (by linarith) unit
  have above : (mantissa : ℚ) * 2 ^ exponent < (mantissa + 1 / 2) * 2 ^ exponent :=
    mul_lt_mul_of_pos_right (by linarith) unit
  exact ⟨below.le, above.le, .inr ⟨below, above⟩⟩

/-- Counted in the last place of the double, a number near it is rounded to its mantissa. -/
theorem Near.roundsTo (near : Near mantissa exponent narrowBelow number) :
    RoundsTo (number / 2 ^ exponent) mantissa := by
  have unit : (0 : ℚ) < 2 ^ exponent := by positivity
  have gap : (mantissa - 1 / 2 : ℚ) * 2 ^ exponent ≤
      (mantissa - gapBelow narrowBelow) * 2 ^ exponent :=
    mul_le_mul_of_nonneg_right (by linarith [gapBelow_le narrowBelow]) unit.le
  refine ⟨?_, ?_, near.inside.imp_right fun ⟨above, below⟩ => ⟨?_, ?_⟩⟩
  · rw [le_div_iff₀ unit]
    exact gap.trans near.lower
  · rw [div_le_iff₀ unit]
    exact near.upper
  · rw [lt_div_iff₀ unit]
    exact gap.trans_lt above
  · rw [div_lt_iff₀ unit]
    exact below

end Near

/-- The decimal as a number. -/
def Significand.value (decimal : Significand) : ℚ := decimal.digits * 10 ^ decimal.exponent

theorem compareScaled_iff (a : Nat) (i : Int) (n : Nat) (j : Int) :
    (compareScaled a i n j = .gt ↔ (n : ℚ) * 2 ^ j < a * 10 ^ i) ∧
    (compareScaled a i n j = .lt ↔ (a : ℚ) * 10 ^ i < n * 2 ^ j) ∧
    (compareScaled a i n j = .eq ↔ (a : ℚ) * 10 ^ i = n * 2 ^ j) := by
  have scale : (0 : ℚ) < 2 ^ (-j).toNat * 10 ^ (-i).toNat := by positivity
  have left : ((a * Nat.pow 10 i.toNat * Nat.pow 2 (-j).toNat : Nat) : ℚ) =
      a * 10 ^ i * (2 ^ (-j).toNat * 10 ^ (-i).toNat) := by
    have := zpow_mul_toNat (b := 10) (by norm_num) i
    push_cast [Nat.pow_eq]
    rw [← this]
    ring
  have right : ((n * Nat.pow 2 j.toNat * Nat.pow 10 (-i).toNat : Nat) : ℚ) =
      n * 2 ^ j * (2 ^ (-j).toNat * 10 ^ (-i).toNat) := by
    have := zpow_mul_toNat (b := 2) (by norm_num) j
    push_cast [Nat.pow_eq]
    rw [← this]
    ring
  unfold compareScaled
  generalize a * Nat.pow 10 i.toNat * Nat.pow 2 (-j).toNat = L at *
  generalize n * Nat.pow 2 j.toNat * Nat.pow 10 (-i).toNat = R at *
  refine ⟨?_, ?_, ?_⟩
  · rw [compare_gt_iff_gt, ← mul_lt_mul_iff_left₀ scale, ← left, ← right]
    exact_mod_cast Iff.rfl
  · rw [compare_lt_iff_lt, ← mul_lt_mul_iff_left₀ scale, ← left, ← right]
    exact_mod_cast Iff.rfl
  · rw [compare_eq_iff_eq, ← mul_left_inj' scale.ne', ← left, ← right]
    exact_mod_cast Iff.rfl

/-- What is checked of a decimal is that it is near the double. -/
theorem readsBack_iff {mantissa : Nat} {exponent : Int} {narrowBelow : Bool}
    (positive : 0 < mantissa) (decimal : Significand) :
    readsBack mantissa exponent narrowBelow decimal = true ↔
      Near mantissa exponent narrowBelow decimal.value := by
  have quarter : (2 : ℚ) ^ (exponent - 2) = 2 ^ exponent / 4 := by
    rw [zpow_sub₀ two_ne_zero]
    norm_num
  have lower : ((if narrowBelow then 4 * mantissa - 1 else 4 * mantissa - 2 : Nat) : ℚ) *
      2 ^ (exponent - 2) = (mantissa - gapBelow narrowBelow) * 2 ^ exponent := by
    rw [quarter, gapBelow]
    split
    · push_cast [show 1 ≤ 4 * mantissa by omega]
      ring
    · push_cast [show 2 ≤ 4 * mantissa by omega]
      ring
  have upper : ((4 * mantissa + 2 : Nat) : ℚ) * 2 ^ (exponent - 2) =
      (mantissa + 1 / 2) * 2 ^ exponent := by
    rw [quarter]
    push_cast
    ring
  obtain ⟨above, _, atLower⟩ := compareScaled_iff decimal.digits decimal.exponent
    (if narrowBelow then 4 * mantissa - 1 else 4 * mantissa - 2) (exponent - 2)
  obtain ⟨_, below, atUpper⟩ := compareScaled_iff decimal.digits decimal.exponent
    (4 * mantissa + 2) (exponent - 2)
  unfold readsBack
  simp only [Bool.and_eq_true, Bool.or_eq_true, beq_iff_eq, above, atLower, below, atUpper, lower,
    upper]
  change _ ↔ Near mantissa exponent narrowBelow (decimal.digits * 10 ^ decimal.exponent)
  generalize (decimal.digits : ℚ) * 10 ^ decimal.exponent = number
  constructor
  · rintro ⟨low, high⟩
    constructor
    case lower => grind
    case upper => grind
    case inside => grind
  · rintro ⟨low, high, inside⟩
    grind

/-! ### The nearest double -/

section Nearest

variable {negative narrowBelow : Bool} {numerator denominator mantissa : Nat} {exponent : Int}

/-- A quotient is taken to the mantissa that it is rounded to in its last place. -/
theorem nearest_of_rounds {place : Int} (positive : 0 < denominator)
    (last : lastPlace numerator denominator = place) (most : place ≤ 971)
    (rounds : RoundsTo ((numerator : ℚ) / denominator / 2 ^ place) mantissa)
    (short : mantissa < 2 ^ 53) :
    nearest negative numerator denominator = packed negative mantissa place := by
  unfold nearest packed
  simp only [last, roundHalfEven_scaled positive rounds]
  simp only [Nat.pow_eq, beq_iff_eq, if_neg short.ne, if_neg (not_lt.mpr most)]

/-- A mantissa that needs one bit too many is halved. -/
theorem nearest_of_rounds_up {place : Int} (positive : 0 < denominator)
    (last : lastPlace numerator denominator = place) (most : place < 971)
    (rounds : RoundsTo ((numerator : ℚ) / denominator / 2 ^ place) (2 ^ 53)) :
    nearest negative numerator denominator = packed negative (2 ^ 52) (place + 1) := by
  have next : ¬ place + 1 > 971 := by omega
  unfold nearest packed
  simp only [last, roundHalfEven_scaled positive rounds]
  simp only [Nat.pow_eq, beq_iff_eq, if_true, if_neg next]

/-- From a double upwards, and in the least place, the quotients near it have its last place. -/
theorem lastPlace_of_near (normal : Normal mantissa exponent narrowBelow)
    (nonzero : 0 < numerator) (positive : 0 < denominator)
    (near : Near mantissa exponent narrowBelow ((numerator : ℚ) / denominator))
    (full : -1074 < exponent → (2 : ℚ) ^ (exponent + 52) ≤ numerator / denominator) :
    lastPlace numerator denominator = exponent := by
  have unit : (0 : ℚ) < 2 ^ exponent := by positivity
  have most : (mantissa : ℚ) + 1 ≤ 2 ^ 53 := by exact_mod_cast normal.mantissa_lt
  refine lastPlace_eq nonzero positive normal.least_le ?_ full
  calc (numerator : ℚ) / denominator ≤ (mantissa + 1 / 2) * 2 ^ exponent := near.upper
    _ < 2 ^ (53 : Nat) * 2 ^ exponent := mul_lt_mul_of_pos_right (by linarith) unit
    _ = 2 ^ (exponent + 53) := by rw [zpow_add₀ two_ne_zero, mul_comm]; rfl

/-- Where numbers near a double have more places than it, the double is a power of two. -/
theorem narrowBelow_of_near (normal : Normal mantissa exponent narrowBelow)
    (beyond : -1074 < exponent) {number : ℚ}
    (near : Near mantissa exponent narrowBelow number) (short : number < 2 ^ (exponent + 52)) :
    narrowBelow = true := by
  have unit : (0 : ℚ) < 2 ^ exponent := by positivity
  have full := normal.full beyond
  have same : ¬ 2 ^ 52 + 1 ≤ mantissa := by
    intro more
    have wide : (2 ^ 52 + 1 : ℚ) ≤ mantissa := by exact_mod_cast more
    have gap := gapBelow_le narrowBelow
    have less : number < number :=
      calc number < 2 ^ (exponent + 52) := short
        _ = 2 ^ (52 : Nat) * 2 ^ exponent := by rw [zpow_add₀ two_ne_zero, mul_comm]; rfl
        _ ≤ (mantissa - gapBelow narrowBelow) * 2 ^ exponent :=
            mul_le_mul_of_nonneg_right (by linarith) unit.le
        _ ≤ number := near.lower
    exact lt_irrefl _ less
  exact normal.narrow_iff.mpr ⟨by omega, beyond⟩

/-- Below a power of two the places are half as wide, and what is near it is rounded up to it. -/
theorem nearest_of_near_below (normal : Normal mantissa exponent narrowBelow)
    (nonzero : 0 < numerator) (positive : 0 < denominator) (beyond : -1074 < exponent)
    (near : Near mantissa exponent narrowBelow ((numerator : ℚ) / denominator))
    (short : (numerator : ℚ) / denominator < 2 ^ (exponent + 52)) :
    nearest negative numerator denominator = packed negative mantissa exponent := by
  have narrow := narrowBelow_of_near normal beyond near short
  obtain ⟨power, -⟩ := normal.narrow_iff.mp narrow
  have most := normal.le_most
  have lower := near.lower
  rw [power, gapBelow, if_pos narrow] at lower
  push_cast at lower
  have unit : (0 : ℚ) < 2 ^ (exponent - 1) := by positivity
  have double : (2 : ℚ) ^ exponent = 2 * 2 ^ (exponent - 1) := by
    rw [zpow_sub_one₀ two_ne_zero]
    ring
  have half : (2 : ℚ) ^ (exponent + 52) = 2 ^ 53 * 2 ^ (exponent - 1) := by
    rw [← zpow_natCast, ← zpow_add₀ two_ne_zero]
    congr 1
    omega
  rw [double] at lower
  have last : lastPlace numerator denominator = exponent - 1 := by
    refine lastPlace_eq nonzero positive (by omega) ?_ fun _ => ?_
    · rwa [show exponent - 1 + 53 = exponent + 52 by omega]
    · rw [zpow_add₀ two_ne_zero]
      norm_num at lower ⊢
      linarith
  have rounds : RoundsTo ((numerator : ℚ) / denominator / 2 ^ (exponent - 1)) (2 ^ 53) := by
    refine ⟨?_, ?_, .inl (by norm_num)⟩
    · rw [le_div_iff₀ unit]
      push_cast
      linarith
    · rw [div_le_iff₀ unit]
      push_cast
      linarith
  rw [nearest_of_rounds_up positive last (by omega) rounds, sub_add_cancel, power]

/-- A number near a double is taken to that double. -/
theorem nearest_of_near (normal : Normal mantissa exponent narrowBelow) (some : 0 < mantissa)
    (positive : 0 < denominator)
    (near : Near mantissa exponent narrowBelow ((numerator : ℚ) / denominator)) :
    nearest negative numerator denominator = packed negative mantissa exponent := by
  have nonzero : 0 < numerator := by
    rw [Nat.pos_iff_ne_zero]
    rintro rfl
    simpa using near.pos some
  by_cases full : -1074 < exponent → (2 : ℚ) ^ (exponent + 52) ≤ numerator / denominator
  · exact nearest_of_rounds positive (lastPlace_of_near normal nonzero positive near full)
      normal.le_most near.roundsTo normal.mantissa_lt
  · rw [Classical.not_imp, not_le] at full
    exact nearest_of_near_below normal nonzero positive full.1 near full.2

end Nearest

/-! ### Decimals -/

section Decimals

variable {negative narrowBelow : Bool} {mantissa digits : Nat} {exponent place : Int}

/-- Numbers near a double are as large as doubles are. -/
theorem Near.bounds (normal : Normal mantissa exponent narrowBelow) (some : 0 < mantissa)
    {number : ℚ} (near : Near mantissa exponent narrowBelow number) :
    (2 : ℚ) ^ (-1075 : Int) ≤ number ∧ number ≤ 2 ^ (1024 : Int) := by
  have one : (1 : ℚ) ≤ mantissa := by exact_mod_cast some
  have most : (mantissa + 1 : ℚ) ≤ 2 ^ (53 : Int) := by exact_mod_cast normal.mantissa_lt
  have half : (2 : ℚ) ^ (-1 : Int) ≤ mantissa - gapBelow narrowBelow := by
    norm_num
    linarith [gapBelow_le narrowBelow]
  constructor
  · calc (2 : ℚ) ^ (-1075 : Int) = 2 ^ (-1 : Int) * 2 ^ (-1074 : Int) := by
          rw [← zpow_add₀ two_ne_zero]
          rfl
      _ ≤ (mantissa - gapBelow narrowBelow) * 2 ^ exponent := by
          have least : (2 : ℚ) ^ (-1074 : Int) ≤ 2 ^ exponent :=
            zpow_le_zpow_right₀ one_le_two normal.least_le
          gcongr
      _ ≤ number := near.lower
  · calc number ≤ (mantissa + 1 / 2) * 2 ^ exponent := near.upper
      _ ≤ 2 ^ (53 : Int) * 2 ^ (971 : Int) := by
          have greatest : (2 : ℚ) ^ exponent ≤ 2 ^ (971 : Int) :=
            zpow_le_zpow_right₀ one_le_two normal.le_most
          gcongr
          linarith
      _ = 2 ^ (1024 : Int) := by
          rw [← zpow_add₀ two_ne_zero]
          rfl

theorem place_le_of_le (given : 0 < digits)
    (most : (digits : ℚ) * 10 ^ place ≤ 2 ^ (1024 : Int)) : place ≤ 400 := by
  have one : (1 : ℚ) ≤ digits := by exact_mod_cast given
  have below : (10 : ℚ) ^ place < 10 ^ (400 : Int) :=
    calc (10 : ℚ) ^ place ≤ digits * 10 ^ place := le_mul_of_one_le_left (by positivity) one
      _ ≤ 2 ^ (1024 : Int) := most
      _ ≤ 2 ^ (3 * 400 : Int) := zpow_le_zpow_right₀ one_le_two (by norm_num)
      _ = (2 ^ (3 : Int)) ^ (400 : Int) := zpow_mul _ _ _
      _ < 10 ^ (400 : Int) := zpow_lt_zpow_left₀ (by norm_num) (by norm_num) (by norm_num)
  exact ((zpow_lt_zpow_iff_right₀ (by norm_num)).mp below).le

theorem le_place_of_le (least : (2 : ℚ) ^ (-1075 : Int) ≤ digits * 10 ^ place) :
    -1200 ≤ place + (digits.log2 : Int) := by
  by_contra small
  have size : (digits : ℚ) < 2 ^ ((digits.log2 : Int) + 1) := by
    exact_mod_cast Nat.lt_log2_self (n := digits)
  have tens : (10 : ℚ) ^ place ≤ 2 ^ place := by
    obtain ⟨places, rfl⟩ : ∃ places : Nat, place = -places := ⟨(-place).toNat, by omega⟩
    rw [zpow_neg, zpow_neg, zpow_natCast, zpow_natCast]
    gcongr
    norm_num
  have below : (2 : ℚ) ^ (-1075 : Int) < 2 ^ ((digits.log2 : Int) + 1 + place) :=
    calc (2 : ℚ) ^ (-1075 : Int) ≤ digits * 10 ^ place := least
      _ ≤ digits * 2 ^ place := by gcongr
      _ < 2 ^ ((digits.log2 : Int) + 1) * 2 ^ place := by gcongr
      _ = 2 ^ ((digits.log2 : Int) + 1 + place) := (zpow_add₀ two_ne_zero _ _).symm
  rw [zpow_lt_zpow_iff_right₀ one_lt_two] at below
  omega

/-- A decimal near a double is taken to that double, however many digits it has. -/
theorem nearestDecimal_of_near (normal : Normal mantissa exponent narrowBelow)
    (some : 0 < mantissa) (near : Near mantissa exponent narrowBelow (digits * 10 ^ place)) :
    nearestDecimal negative digits place = packed negative mantissa exponent := by
  obtain ⟨least, most⟩ := near.bounds normal some
  have given : 0 < digits := by
    rw [Nat.pos_iff_ne_zero]
    rintro rfl
    simpa using near.pos some
  have notTooLarge : ¬ place > 400 := not_lt.mpr (place_le_of_le given most)
  have notTooSmall : ¬ place + (digits.log2 : Int) < -1200 := not_lt.mpr (le_place_of_le least)
  have quotient : ((digits * Nat.pow 10 place.toNat : Nat) : ℚ) /
      (Nat.pow 10 (-place).toNat : Nat) = digits * 10 ^ place := by
    have scale : (10 : ℚ) ^ (-place).toNat ≠ 0 := by positivity
    push_cast [Nat.pow_eq]
    rw [← zpow_mul_toNat (by norm_num) place]
    field_simp
  have denominator : 0 < Nat.pow 10 (-place).toNat := Nat.pow_pos (by norm_num)
  unfold nearestDecimal
  simp only [beq_iff_eq, given.ne', if_false, if_neg notTooLarge, if_neg notTooSmall]
  exact nearest_of_near normal some denominator (quotient ▸ near)

/-! ### The shortest decimal -/

/-- Zeros at the end of the digits are moved into the exponent. -/
theorem Significand.strip_value (fuel : Nat) (decimal : Significand) :
    (decimal.strip fuel).value = decimal.value := by
  induction fuel generalizing decimal with
  | zero => rfl
  | succ fuel ih =>
      unfold strip
      split
      · rename_i trailing
        obtain ⟨tens, exact⟩ : 10 ∣ decimal.digits := by
          simp only [Bool.and_eq_true, beq_iff_eq] at trailing
          omega
        rw [ih, Significand.value, Significand.value, exact,
          Nat.mul_div_cancel_left _ (by norm_num), zpow_add_one₀ (by norm_num)]
        push_cast
        ring
      · rfl

theorem exactDecimal_value (mantissa : Nat) (exponent : Int) :
    (exactDecimal mantissa exponent).value = mantissa * 2 ^ exponent := by
  have fives : (5 : ℚ) ^ (-exponent).toNat * 10 ^ min exponent 0 = 2 ^ min exponent 0 := by
    have same : -(((-exponent).toNat : Int)) = min exponent 0 := by omega
    rw [← same, zpow_neg, zpow_neg, zpow_natCast, zpow_natCast, show (10 : ℚ) = 5 * 2 by norm_num,
      mul_pow]
    field_simp
  have twos : (2 : ℚ) ^ exponent.toNat * 2 ^ min exponent 0 = 2 ^ exponent := by
    rw [← zpow_natCast, ← zpow_add₀ two_ne_zero]
    congr 1
    omega
  unfold Significand.value exactDecimal
  push_cast [Nat.pow_eq]
  rw [mul_assoc, fives, mul_assoc, twos]

theorem neighbourOnGrid?_readsBack {decimal : Significand}
    (found : neighbourOnGrid? mantissa exponent narrowBelow place = some decimal) :
    readsBack mantissa exponent narrowBelow decimal = true := by
  unfold neighbourOnGrid? at found
  grind

/-- The shortest decimal of a double is near it. -/
theorem near_shortest (some : 0 < mantissa) :
    Near mantissa exponent narrowBelow (shortest mantissa exponent narrowBelow).value := by
  unfold shortest
  rw [Significand.strip_value]
  generalize searched : (List.range 17).findSome? _ = found
  cases found with
  | none =>
      rw [Option.getD_none, exactDecimal_value]
      exact near_self
  | some decimal =>
      obtain ⟨index, _, found⟩ := List.exists_of_findSome?_eq_some searched
      exact (readsBack_iff some decimal).mp (neighbourOnGrid?_readsBack found)

end Decimals

end CacheSteward.Decimal
