import CacheSteward.Value.Json

namespace CacheSteward.Value

/-! Which values have a JSON form.

What the strict writer refuses are dates, and keys that are neither text nor a scalar.  Everything
else is written, however it is laid out.
-/

/-- Dates, lists and mappings can be no JSON key. -/
def isWritableKey : Value → Bool
  | .date _ | .moment _ | .list _ | .mapping _ => false
  | _ => true

mutual

def isWritable : Value → Bool
  | .date _ | .moment _ => false
  | .list items => areWritable items
  | .mapping entries => haveWritable entries
  | _ => true

def areWritable : List Value → Bool
  | [] => true
  | v :: rest => v.isWritable && areWritable rest

def haveWritable : List (Value × Value) → Bool
  | [] => true
  | (k, v) :: rest => k.isWritableKey && v.isWritable && haveWritable rest

end

theorem isOk_jsonKey (k : Value) : (jsonKey k).isOk = k.isWritableKey := by
  cases k <;> rfl

private theorem isOk_map {α β ε : Type} (f : α → β) (result : Except ε α) :
    (result.map f).isOk = result.isOk := by
  cases result <;> rfl

private theorem isOk_bind {α β ε : Type} {first : Except ε α} {next : α → Except ε β}
    {passes : Bool} (goesOn : ∀ a, first = .ok a → (next a).isOk = passes) :
    (first >>= next).isOk = (first.isOk && passes) := by
  cases first with
  | error reason => rfl
  | ok a => exact goesOn a rfl

mutual

/-- The strict writer refuses exactly the values without a JSON form, in every layout. -/
theorem isOk_writeJson (layout : JsonLayout) (depth : Nat) :
    ∀ v : Value, (writeJson layout false depth v).isOk = v.isWritable
  | .null | .flag _ | .whole _ | .real _ | .text _ | .date _ | .moment _ => rfl
  | .list items => (isOk_map _ _).trans (isOk_writeItems layout (depth + 1) items)
  | .mapping entries => (isOk_map _ _).trans (isOk_writeEntries layout (depth + 1) entries)

theorem isOk_writeItems (layout : JsonLayout) (depth : Nat) :
    ∀ items : List Value, (writeItems layout false depth items).isOk = areWritable items
  | [] => rfl
  | v :: rest => by
      rw [writeItems, areWritable, isOk_bind fun first _ => ?_, isOk_writeJson layout depth v]
      rw [isOk_bind fun others _ => ?_, isOk_writeItems layout depth rest, Bool.and_true]
      rfl

theorem isOk_writeEntries (layout : JsonLayout) (depth : Nat) :
    ∀ entries : List (Value × Value),
      (writeEntries layout false depth entries).isOk = haveWritable entries
  | [] => rfl
  | (k, v) :: rest => by
      rw [writeEntries, haveWritable, Bool.and_assoc, isOk_bind fun key _ => ?_, isOk_jsonKey]
      rw [isOk_bind fun value _ => ?_, isOk_writeJson layout depth v]
      rw [isOk_bind fun others _ => ?_, isOk_writeEntries layout depth rest, Bool.and_true]
      rfl

end

end CacheSteward.Value
