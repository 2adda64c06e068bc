import CacheSteward.Decimal.Layout

namespace CacheSteward

/-! Numbers that keep the kind they were written in.

A number is a truth value, an integer of any size or a double.  Integers are computed exactly; as
soon as a double takes part the result is a double.  Comparisons are exact between all kinds.
-/

inductive Amount where
  | flag (b : Bool)
  | whole (n : Int)
  | real (x : Float)
deriving Repr, DecidableEq

namespace Amount

/-- The integer an amount stands for when it is no double. -/
def whole? : Amount → Option Int
  | .flag b => some (if b then 1 else 0)
  | .whole n => some n
  | .real _ => none

/-- The nearest double; past the largest one it is the infinity. -/
def toFloat : Amount → Float
  | .flag b => if b then 1.0 else 0.0
  | .whole n => Decimal.nearestWhole n
  | .real x => x

def combine (exact : Int → Int → Int) (rounded : Float → Float → Float) (a b : Amount) : Amount :=
  match a.whole?, b.whole? with
  | some m, some n => .whole (exact m n)
  | _, _ => .real (rounded a.toFloat b.toFloat)

def plus : Amount → Amount → Amount := combine (· + ·) (· + ·)

def minus : Amount → Amount → Amount := combine (· - ·) (· - ·)

/-- The order of two amounts; `none` when one of them is not a number. -/
def compare? (a b : Amount) : Option Ordering :=
  match a.whole?, b.whole? with
  | some m, some n => some (compare m n)
  | some m, none => Decimal.compareWhole m b.toFloat
  | none, some n => (Decimal.compareWhole n a.toFloat).map Ordering.swap
  | none, none =>
      let x := a.toFloat
      let y := b.toFloat
      if x < y then some .lt else if x == y then some .eq else if x > y then some .gt else none

def less (a b : Amount) : Bool := a.compare? b == some .lt

def atMost (a b : Amount) : Bool := a.compare? b == some .lt || a.compare? b == some .eq

def equal (a b : Amount) : Bool := a.compare? b == some .eq

def text : Amount → String
  | .flag b => if b then "True" else "False"
  | .whole n => toString n
  | .real x => Decimal.natural x

/-- The amount with a fixed number of places; a truth value counts as 0 or 1. -/
def fixedText (places : Nat) (a : Amount) : String := Decimal.fixed places a.toFloat

/-- The amount rounded to a number of places; integers stay as they are. -/
def rounded (places : Nat) (a : Amount) : Amount :=
  match a.whole? with
  | some n => .whole n
  | none => .real (Decimal.roundPlaces places a.toFloat)

inductive CeilingFault where
  | undefined
  | infinite
  /-- The quotient of two integers is larger than every double. -/
  | quotientTooLarge
  /-- An integer that meets a double is larger than every double. -/
  | operandTooLarge
deriving Repr, DecidableEq

def quotientCeiling (a b : Amount) : Except CeilingFault Int :=
  let ceiling (x : Float) : Except CeilingFault Int :=
    match Decimal.ceiling? x with
    | some n => .ok n
    | none => .error (if x == x then .infinite else .undefined)
  match a.whole?, b.whole? with
  | some m, some n =>
      let quotient := Decimal.nearest ((m < 0) != (n < 0)) m.natAbs n.natAbs
      match Decimal.ceiling? quotient with
      | some k => .ok k
      | none => .error .quotientTooLarge
  | some m, none =>
      match Decimal.ceiling? (Decimal.nearestWhole m) with
      | some _ => ceiling (a.toFloat / b.toFloat)
      | none => .error .operandTooLarge
  | none, some n =>
      match Decimal.ceiling? (Decimal.nearestWhole n) with
      | some _ => ceiling (a.toFloat / b.toFloat)
      | none => .error .operandTooLarge
  | none, none => ceiling (a.toFloat / b.toFloat)

/-- Beside a double, the quotient has a ceiling exactly when that of the doubles has one. -/
theorem quotientCeiling_real_isOk_iff {whole : Amount} {part : Float}
    (meets : ∀ n, whole.whole? = some n →
      (Decimal.ceiling? (Decimal.nearestWhole n)).isSome = true) :
    (∃ n, quotientCeiling whole (.real part) = .ok n) ↔
      (Decimal.ceiling? (whole.toFloat / part)).isSome = true := by
  have doubles : quotientCeiling whole (.real part) =
      match Decimal.ceiling? (whole.toFloat / part) with
      | some n => .ok n
      | none => .error (if whole.toFloat / part == whole.toFloat / part then .infinite
          else .undefined) := by
    unfold quotientCeiling
    cases exact : whole.whole? with
    | none => rfl
    | some n =>
        obtain ⟨ceiling, found⟩ := Option.isSome_iff_exists.mp (meets n exact)
        change (match Decimal.ceiling? (Decimal.nearestWhole n) with | some _ => _ | none => _) = _
        rw [found]
        rfl
  rw [doubles]
  cases Decimal.ceiling? (whole.toFloat / part) with
  | none => exact ⟨nofun, nofun⟩
  | some n => exact ⟨fun _ => rfl, fun _ => ⟨n, rfl⟩⟩

end Amount

end CacheSteward
