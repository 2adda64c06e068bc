import CacheSteward.Settings

namespace CacheSteward

/-! Which timeouts the environment can set, and which of them can be used.

A text passes when the double that it spells does not compare as zero or below.  Not-a-number
compares with nothing and passes, and so does the infinity.  Whether a budget has a bound on its
attempts is then decided by the quotient of its two times, which has to be finite.
-/

/-! ### Doubles beside zero, and finite ones -/

namespace Decimal

open Float.Model

theorem le_iff_compare (x y : Float) :
    x ≤ y ↔ (x.toModel.unpack.compare y.toModel.unpack).any Ordering.isLE = true := by
  change decide (x.toModel ≤ y.toModel) = true ↔ _
  rw [decide_eq_true_iff]
  exact Iff.rfl

theorem lt_iff_compare (x y : Float) :
    x < y ↔ x.toModel.unpack.compare y.toModel.unpack = some .lt := by
  change decide (x.toModel < y.toModel) = true ↔ _
  rw [decide_eq_true_iff]
  change (x.toModel.unpack.compare y.toModel.unpack == some .lt) = true ↔ _
  exact beq_iff_eq

theorem beq_iff_compare (x y : Float) :
    (x == y) = true ↔ x.toModel.unpack.compare y.toModel.unpack = some .eq := by
  change (x.toModel.unpack.compare y.toModel.unpack == some .eq) = true ↔ _
  exact beq_iff_eq

/-- A double that is not zero or below is above zero, or it is not a number. -/
theorem of_not_le_zero {x : Float} (above : ¬ x ≤ 0.0) :
    ¬ x < 0.0 ∧ ¬ (x == 0.0) = true ∧ (0.0 < x ↔ x.isNaN = false) := by
  have zero : (0.0 : Float).toModel.unpack = .zero .positive := rfl
  change ¬ x < 0.0 ∧ ¬ (x == 0.0) = true ∧ (0.0 < x ↔ x.toModel.unpack.isNaN = false)
  rw [lt_iff_compare, beq_iff_compare, lt_iff_compare, zero]
  rw [le_iff_compare, zero] at above
  cases unpacked : x.toModel.unpack with
  | notANumber => exact ⟨nofun, nofun, nofun, nofun⟩
  | zero sign =>
      rw [unpacked] at above
      cases sign <;> exact absurd rfl above
  | infinity sign | finite sign mantissa exponent =>
      rw [unpacked] at above
      cases sign with
      | positive => exact ⟨nofun, nofun, fun _ => rfl, fun _ => rfl⟩
      | negative => exact absurd rfl above

/-- All bits of the field are set in the infinities and in not-a-number, and nowhere else. -/
def exponentField (x : Float) : Nat := ((x.toBits >>> 52) &&& 0x7FF).toNat

theorem ceiling?_isSome_iff_finite (x : Float) :
    (ceiling? x).isSome = true ↔ ∃ negative mantissa exponent narrowBelow,
      Expansion.of x = .finite negative mantissa exponent narrowBelow := by
  unfold ceiling?
  cases Expansion.of x with
  | notANumber | infinite => exact ⟨nofun, nofun⟩
  | finite negative mantissa exponent narrowBelow =>
      exact ⟨fun _ => ⟨_, _, _, _, rfl⟩, fun _ => rfl⟩

theorem ceiling?_isSome_iff_exponentField (x : Float) :
    (ceiling? x).isSome = true ↔ exponentField x ≠ 0x7FF := by
  let negative := x.toBits >>> 63 == 1
  let fraction := (x.toBits &&& 0xFFFFFFFFFFFFF).toNat
  have expanded : Expansion.of x =
      if exponentField x == 0x7FF then
        if fraction == 0 then .infinite negative else .notANumber
      else if exponentField x == 0 then .finite negative fraction (-1074) false
      else .finite negative (Nat.pow 2 52 + fraction) ((exponentField x : Int) - 1075)
        (fraction == 0 && exponentField x > 1) := rfl
  rw [ceiling?_isSome_iff_finite, expanded]
  by_cases special : exponentField x = 0x7FF
  · rw [if_pos (beq_iff_eq.mpr special)]
    split <;> exact ⟨nofun, absurd special⟩
  · rw [if_neg fun same => special (beq_iff_eq.mp same)]
    split <;> exact ⟨fun _ => special, fun _ => ⟨_, _, _, _, rfl⟩⟩

theorem isFinite_iff_exponentField (x : Float) :
    x.isFinite = true ↔ exponentField x ≠ 0x7FF := by
  let exponent : BitVec 11 :=
    @UnpackedFloat.unpackExponent Format.binary64 x.toBits.toBitVec
  let mantissa : BitVec 52 :=
    @UnpackedFloat.unpackMantissa Format.binary64 x.toBits.toBitVec
  have field : exponent.toNat = exponentField x := by
    simp [exponent, exponentField, UnpackedFloat.unpackExponent, Nat.shiftRight_eq_div_pow,
      Nat.and_two_pow_sub_one_eq_mod _ 11]
  have ones : exponent = -1#11 ↔ exponentField x = 0x7FF := by
    rw [← field, ← BitVec.toNat_inj]
    rfl
  change (UnpackedFloat.unpack Format.binary64 x.toBits.toBitVec).isFinite = true ↔ _
  rw [ne_eq, ← ones]
  unfold UnpackedFloat.unpack
  dsimp only
  by_cases special : exponent = -1#11
  · rw [if_pos special]
    by_cases empty : mantissa = 0#52
    · rw [if_pos empty]
      exact ⟨nofun, absurd special⟩
    · rw [if_neg empty]
      exact ⟨nofun, absurd special⟩
  · rw [if_neg special]
    by_cases subnormal : exponent = 0#11
    · rw [if_pos subnormal]
      by_cases empty : mantissa = 0#52
      · rw [dif_pos empty]
        exact ⟨fun _ => special, fun _ => rfl⟩
      · rw [dif_neg empty]
        exact ⟨fun _ => special, fun _ => rfl⟩
    · rw [if_neg subnormal]
      exact ⟨fun _ => special, fun _ => rfl⟩

/-- A double has a ceiling exactly when it is finite. -/
theorem ceiling?_isSome_iff (x : Float) : (ceiling? x).isSome = true ↔ x.isFinite = true := by
  rw [ceiling?_isSome_iff_exponentField, isFinite_iff_exponentField]

end Decimal

/-! ### Times that pass the guards -/

namespace Amount

/-- What is known of a time that has passed a guard against zero and below. -/
structure Passes (time : Amount) : Prop where
  notBelow : time.atMost (.real 0.0) = false
  positive_iff : Amount.less (.real 0.0) time = true ↔ time.toFloat.isNaN = false
  /-- An integer is small enough to meet a double. -/
  meets : ∀ n, time.whole? = some n → (Decimal.ceiling? (Decimal.nearestWhole n)).isSome = true

theorem Passes.ofReal {x : Float} (above : ¬ x ≤ 0.0) : Passes (.real x) := by
  obtain ⟨notLess, notEqual, positive⟩ := Decimal.of_not_le_zero above
  constructor
  case notBelow =>
    have compared : compare? (.real x) (.real 0.0) = if x > 0.0 then some .gt else none := by
      change (if x < 0.0 then some Ordering.lt else if (x == 0.0) = true then some .eq
        else if x > 0.0 then some .gt else none) = _
      rw [if_neg notLess, if_neg notEqual]
    unfold atMost
    rw [compared]
    split <;> rfl
  case positive_iff =>
    have compared : less (.real 0.0) (.real x) = true ↔ 0.0 < x := by
      change ((if 0.0 < x then some Ordering.lt else if (0.0 == x) = true then some .eq
        else if x < 0.0 then some .gt else none) == some .lt) = true ↔ _
      by_cases above : 0.0 < x
      · simp [above]
      · simp [above, notLess]
    exact compared.trans positive
  case meets =>
    intro n whole
    cases whole

/-- Beside a double, the quotient has a ceiling exactly when the doubles have a finite one. -/
theorem Passes.quotientCeiling_isOk_iff {whole : Amount} (passes : whole.Passes) (part : Float) :
    (∃ n, quotientCeiling whole (.real part) = .ok n) ↔
    (whole.toFloat / part).isFinite = true := by
  rw [quotientCeiling_real_isOk_iff passes.meets, Decimal.ceiling?_isSome_iff]

end Amount

/-! ### The five settings -/

/-- The times that operations are given, with the interval last. -/
def Timeouts.values {τ : Type} (timeouts : Timeouts τ) : List τ :=
  [timeouts.create, timeouts.update, timeouts.delete, timeouts.read, timeouts.interval]

namespace Settings

/-- The variables that hold times, in the order in which they are read. -/
def secondsKeys : List String :=
  ["SCS_CREATE_TIMEOUT", "SCS_UPDATE_TIMEOUT", "SCS_DELETE_TIMEOUT", "SCS_READ_TIMEOUT",
    "SCS_POLL_INTERVAL"]

/-- A variable that is set spells a double, and the double does not compare as zero or below. -/
def accepts (environment : List (String × String)) (key : String) : Bool :=
  match environment.lookup key with
  | none => true
  | some raw =>
      match Decimal.readReal? raw with
      | none => false
      | some x => !decide (x ≤ 0.0)

/-- A time is the default, or a double that has passed the guard. -/
def Chosen (default time : Amount) : Prop := time = default ∨ ∃ x, ¬ x ≤ 0.0 ∧ time = .real x

theorem seconds_cases (environment : List (String × String)) (key : String) (default : Amount) :
    (accepts environment key = true ∧
      ∃ time, seconds environment key default = .ok time ∧ Chosen default time) ∨
    (accepts environment key = false ∧
      ∃ reason, seconds environment key default = .error (.configuration reason (some key))) := by
  unfold seconds accepts
  cases environment.lookup key with
  | none => exact Or.inl ⟨rfl, default, rfl, Or.inl rfl⟩
  | some raw =>
      dsimp only
      cases Decimal.readReal? raw with
      | none => exact Or.inr ⟨rfl, _, rfl⟩
      | some x =>
          by_cases below : x ≤ 0.0
          · exact Or.inr ⟨by simp [below], _, if_pos below⟩
          · left
            simp [below, Chosen]

theorem passes_of_standard {time : Amount} (standard : time ∈ Timeouts.standard.values) :
    time.Passes := by
  simp only [Timeouts.values, Timeouts.standard, List.mem_cons, List.not_mem_nil, or_false]
    at standard
  have hours : ∀ n : Int, n = 1200 ∨ n = 1800 ∨ n = 60 → (Amount.whole n).Passes := by
    intro n listed
    constructor
    · rcases listed with rfl | rfl | rfl <;> decide +kernel
    · rcases listed with rfl | rfl | rfl <;> decide +kernel
    · intro exact equal
      cases equal
      rcases listed with rfl | rfl | rfl <;> decide +kernel
  rcases standard with rfl | rfl | rfl | rfl | rfl
  · exact hours _ (Or.inl rfl)
  · exact hours _ (Or.inr (Or.inl rfl))
  · exact hours _ (Or.inl rfl)
  · exact hours _ (Or.inr (Or.inr rfl))
  · exact .ofReal (by decide +kernel)

theorem Chosen.passes {default time : Amount} (chosen : Chosen default time)
    (standard : default ∈ Timeouts.standard.values) : time.Passes := by
  rcases chosen with rfl | ⟨x, above, rfl⟩
  · exact passes_of_standard standard
  · exact .ofReal above

/-- Five times that the guards have let through, the interval as a double. -/
structure Usable (timeouts : Timeouts Amount) : Prop where
  passes : ∀ time ∈ timeouts.values, time.Passes
  interval : ∃ x, timeouts.interval = .real x

/-- Reading these variables in order ends at the first one that is not accepted, or with times
that have passed. -/
def Settles (environment : List (String × String)) (keys : List String)
    (outcome : Except Fault Settings) : Prop :=
  (∃ reason key, keys.find? (fun key => !accepts environment key) = some key ∧
    outcome = .error (.configuration reason (some key))) ∨
  ∃ settings, outcome = .ok settings ∧ (∀ key ∈ keys, accepts environment key = true) ∧
    Usable settings.timeouts

theorem Settles.reading {environment : List (String × String)} {key : String} {keys : List String}
    {default : Amount} {rest : Amount → Except Fault Settings}
    (following : ∀ time, Chosen default time → Settles environment keys (rest time)) :
    Settles environment (key :: keys) (seconds environment key default >>= rest) := by
  rcases seconds_cases environment key default with
    ⟨accepted, time, read, chosen⟩ | ⟨refused, reason, failed⟩
  · rw [read]
    rcases following time chosen with ⟨reason, first, found, failed⟩ | ⟨settings, ended, all, usable⟩
    · exact Or.inl ⟨reason, first, by simp [accepted, found], failed⟩
    · refine Or.inr ⟨settings, ended, ?_, usable⟩
      simpa [accepted] using all
  · rw [failed]
    exact Or.inl ⟨reason, key, by simp [refused], rfl⟩

theorem ofEnvironment_settles (environment : List (String × String)) :
    Settles environment secondsKeys (ofEnvironment environment) := by
  apply Settles.reading
  intro create createChosen
  apply Settles.reading
  intro update updateChosen
  apply Settles.reading
  intro delete deleteChosen
  apply Settles.reading
  intro read readChosen
  apply Settles.reading
  intro interval intervalChosen
  refine Or.inr ⟨_, rfl, nofun, ?_, ?_⟩
  · intro time listed
    simp only [Timeouts.values, List.mem_cons, List.not_mem_nil, or_false] at listed
    rcases listed with rfl | rfl | rfl | rfl | rfl
    · exact createChosen.passes (by simp [Timeouts.values])
    · exact updateChosen.passes (by simp [Timeouts.values])
    · exact deleteChosen.passes (by simp [Timeouts.values])
    · exact readChosen.passes (by simp [Timeouts.values])
    · exact intervalChosen.passes (by simp [Timeouts.values])
  · rcases intervalChosen with rfl | ⟨x, -, rfl⟩
    · exact ⟨10.0, rfl⟩
    · exact ⟨x, rfl⟩

theorem Usable.budget {timeouts : Timeouts Amount} (usable : Usable timeouts)
    (kind : OperationKind) :
    timeouts.budget kind none = .ok ⟨timeouts.timeoutOf kind, timeouts.interval⟩ := by
  have listed : timeouts.timeoutOf kind ∈ timeouts.values := by
    cases kind <;> simp [Timeouts.timeoutOf, Timeouts.values]
  have timeout := (usable.passes _ listed).notBelow
  have interval := (usable.passes timeouts.interval (by simp [Timeouts.values])).notBelow
  unfold Timeouts.budget Budget.make
  change (if (timeouts.timeoutOf kind).atMost (.real 0.0) = true then _
    else if timeouts.interval.atMost (.real 0.0) = true then _ else _) = _
  simp [timeout, interval]

theorem Usable.maxAttempts_isOk_iff {timeouts : Timeouts Amount} (usable : Usable timeouts)
    {timeout : Amount} (listed : timeout ∈ timeouts.values) :
    (∃ most, 1 ≤ most ∧ Budget.maxAttempts ⟨timeout, timeouts.interval⟩ = .ok most) ↔
    (timeout.toFloat / timeouts.interval.toFloat).isFinite = true := by
  obtain ⟨x, interval⟩ := usable.interval
  unfold Budget.maxAttempts
  rw [Amount.attempts_isOk_iff, interval]
  exact (usable.passes timeout listed).quotientCeiling_isOk_iff x

/-- The environment is refused at the first variable that is not accepted.  Else all five times
have passed the guards, and every kind of operation gets its budget: a time is above zero exactly
when it is a number, and a budget bounds its attempts exactly when the quotient of its times is
finite. -/
theorem ofEnvironment_refused_or_usable (environment : List (String × String)) :
    (∃ reason key, key ∈ secondsKeys ∧
      secondsKeys.find? (fun key => !accepts environment key) = some key ∧
      ofEnvironment environment = .error (.configuration reason (some key))) ∨
    ∃ settings, ofEnvironment environment = .ok settings ∧
      (∀ key ∈ secondsKeys, accepts environment key = true) ∧
      (∀ time ∈ settings.timeouts.values,
        Timescale.less Timescale.zero time = true ↔ time.toFloat.isNaN = false) ∧
      ∀ kind, ∃ budget, settings.timeouts.budget kind none = .ok budget ∧
        budget = ⟨settings.timeouts.timeoutOf kind, settings.timeouts.interval⟩ ∧
        ((∃ most, 1 ≤ most ∧ budget.maxAttempts = .ok most) ↔
          (budget.timeout.toFloat / budget.interval.toFloat).isFinite = true) := by
  rcases ofEnvironment_settles environment with
    ⟨reason, key, found, failed⟩ | ⟨settings, ended, accepted, usable⟩
  · exact Or.inl ⟨reason, key, List.mem_of_find?_eq_some found, found, failed⟩
  · refine Or.inr ⟨settings, ended, accepted, ?_, ?_⟩
    · intro time listed
      exact (usable.passes time listed).positive_iff
    · intro kind
      have listed : settings.timeouts.timeoutOf kind ∈ settings.timeouts.values := by
        cases kind <;> simp [Timeouts.timeoutOf, Timeouts.values]
      exact ⟨_, usable.budget kind, rfl, usable.maxAttempts_isOk_iff listed⟩

/-- Not-a-number passes as a timeout: it is not above zero, and its budget bounds no attempts. -/
theorem ofEnvironment_accepts_notANumber :
    ∃ settings budget, ofEnvironment [("SCS_CREATE_TIMEOUT", "nan")] = .ok settings ∧
      Timescale.less Timescale.zero settings.timeouts.create = false ∧
      settings.timeouts.budget .create none = .ok budget ∧
      budget.maxAttempts = .error (.plain .value [.text "cannot convert float NaN to integer"]) := by
  refine ⟨_, ⟨.real (0.0 / 0.0), .real 10.0⟩, rfl, ?_, ?_, ?_⟩
  · decide +kernel
  · rfl
  · rfl

end Settings

end CacheSteward
