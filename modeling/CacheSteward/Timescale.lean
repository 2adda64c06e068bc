import CacheSteward.Fault

namespace CacheSteward

/-! Scales on which time is measured.

Budgets, intervals and clock readings are all values of one scale.  Programs run on amounts of
seconds; other scales serve to reason about the same definitions.
-/

class Timescale (τ : Type) where
  zero : τ
  plus : τ → τ → τ
  minus : τ → τ → τ
  less : τ → τ → Bool
  atMost : τ → τ → Bool
  /-- The least natural that is not below a quotient of two times, and at least one. -/
  attempts : τ → τ → Except Fault Nat
  /-- The form in which a pending operation keeps its budget. -/
  settled : τ → Except Fault τ
  /-- Fails where a time cannot be shown with a fixed number of places. -/
  showable : τ → Except Fault Unit
  value : τ → Value
  /-- To the millisecond. -/
  roundedValue : τ → Value
  text : τ → String
  /-- To the second. -/
  wholeText : τ → String
  /-- To the hundredth of a second. -/
  hundredthsText : τ → String

/-- A time that cannot be used fails with a fault of the machinery, which knows no instance. -/
class LawfulTimescale (τ : Type) [Timescale τ] : Prop where
  attempts_raw : ∀ {whole part : τ} {fault : Fault},
    Timescale.attempts whole part = .error fault → fault.isKnown = false
  settled_raw : ∀ {time : τ} {fault : Fault},
    Timescale.settled time = .error fault → fault.isKnown = false
  showable_raw : ∀ {time : τ} {fault : Fault},
    Timescale.showable time = .error fault → fault.isKnown = false

namespace Amount

def CeilingFault.fault : CeilingFault → Fault
  | .undefined => .plain .value [.text "cannot convert float NaN to integer"]
  | .infinite => .plain .overflow [.text "cannot convert float infinity to integer"]
  | .quotientTooLarge => .plain .overflow [.text "integer division result too large for a float"]
  | .operandTooLarge => .wholeTooLarge

def showable (a : Amount) : Except Fault Unit :=
  match a.whole?, Decimal.ceiling? a.toFloat with
  | some _, none => .error .wholeTooLarge
  | _, _ => .ok ()

/-- A pending operation keeps its budget as a double, which has to be above zero. -/
def settled (a : Amount) : Except Fault Amount := do
  showable a
  if Amount.less (.whole 0) a then return .real a.toFloat
  else throw (.invalidRecord "PendingOperation" [⟨[.field "timeout"], .above 0⟩])

instance : Timescale Amount where
  zero := .real 0.0
  plus := Amount.plus
  minus := Amount.minus
  less := Amount.less
  atMost := Amount.atMost
  attempts whole part :=
    match quotientCeiling whole part with
    | .ok n => .ok (max 1 n.toNat)
    | .error reason => .error reason.fault
  settled := Amount.settled
  showable := Amount.showable
  value := Value.ofAmount
  roundedValue a := .ofAmount (a.rounded 3)
  text := Amount.text
  wholeText := Amount.fixedText 0
  hundredthsText := Amount.fixedText 2

theorem showable_raw {a : Amount} {fault : Fault} (failed : showable a = .error fault) :
    fault.isKnown = false := by
  unfold showable at failed
  split at failed
  · cases failed
    rfl
  · cases failed

theorem settled_raw {a : Amount} {fault : Fault} (failed : settled a = .error fault) :
    fault.isKnown = false := by
  unfold settled at failed
  cases shown : showable a with
  | error reason =>
      rw [shown] at failed
      cases failed
      exact showable_raw shown
  | ok _ =>
      rw [shown] at failed
      change (if Amount.less (.whole 0) a then _ else _) = _ at failed
      split at failed
      · cases failed
      · cases failed
        rfl

theorem attempts_raw {whole part : Amount} {fault : Fault}
    (failed : Timescale.attempts whole part = .error fault) : fault.isKnown = false := by
  change (match quotientCeiling whole part with
    | .ok n => Except.ok (max 1 n.toNat)
    | .error reason => .error reason.fault) = _ at failed
  split at failed
  · cases failed
  · rename_i reason _
    cases failed
    cases reason <;> rfl

/-- There is a number of attempts exactly when the quotient has a ceiling. -/
theorem attempts_isOk_iff (whole part : Amount) :
    (∃ most, 1 ≤ most ∧ Timescale.attempts whole part = .ok most) ↔
    ∃ n, quotientCeiling whole part = .ok n := by
  change (∃ most, 1 ≤ most ∧ (match quotientCeiling whole part with
    | .ok n => Except.ok (max 1 n.toNat)
    | .error reason => .error reason.fault) = .ok most) ↔ _
  cases quotientCeiling whole part with
  | error reason => simp
  | ok n => exact ⟨fun _ => ⟨n, rfl⟩, fun _ => ⟨_, Nat.le_max_left 1 n.toNat, rfl⟩⟩

instance : LawfulTimescale Amount := ⟨attempts_raw, settled_raw, showable_raw⟩

end Amount

end CacheSteward
