import CacheSteward.Pending

namespace CacheSteward

/-! The table of instances that an operation holds.

An instance is in the table exactly while an operation holds it.  Between the steps of an operation
the instance stays in the table with nothing pending.
-/

variable {τ : Type}

/-- What tells instances apart.  Ids that are numbers are the same when they are equal as
numbers. -/
inductive InstanceKey where
  | text (s : String)
  | number (digits : String)
  | other (shown : String)
deriving Repr, DecidableEq

def InstanceKey.of (instanceId : Value) : InstanceKey :=
  match instanceId with
  | .text s => .text s
  | v =>
      match v.amount? with
      | some (.real x) =>
          match Decimal.truncate? x with
          | some n => .number (if Amount.equal (.whole n) (.real x) then toString n
              else Decimal.natural x)
          | none => .number (Decimal.natural x)
      | some a => .number (toString (a.whole?.getD 0))
      | none => .other v.inside

structure Held (τ : Type) where
  instanceId : Value
  pending : Option (PendingOperation τ)

def Held.key (held : Held τ) : InstanceKey := .of held.instanceId

abbrev InFlight (τ : Type) := List (Held τ)

namespace InFlight

def find? (table : InFlight τ) (instanceId : Value) : Option (Held τ) :=
  List.find? (fun held => held.key == .of instanceId) table

def pending? (table : InFlight τ) (instanceId : Value) : Option (PendingOperation τ) :=
  (table.find? instanceId).bind Held.pending

/-- Sets what is pending for an instance, which is then held. -/
def hold (table : InFlight τ) (instanceId : Value) (pending : Option (PendingOperation τ)) :
    InFlight τ :=
  match table with
  | [] => [⟨instanceId, pending⟩]
  | held :: rest =>
      if held.key = .of instanceId then { held with pending } :: rest
      else held :: hold rest instanceId pending

def release (table : InFlight τ) (instanceId : Value) : InFlight τ :=
  table.filter fun held => held.key != .of instanceId

section Lemmas

variable {table : InFlight τ} {instanceId other : Value} {pending : Option (PendingOperation τ)}

theorem find?_cons (held : Held τ) :
    find? (held :: table) instanceId =
      if held.key = .of instanceId then some held else find? table instanceId := by
  by_cases same : held.key = .of instanceId <;> simp [find?, same]

theorem release_cons (held : Held τ) :
    release (held :: table) instanceId =
      if held.key = .of instanceId then release table instanceId
      else held :: release table instanceId := by
  by_cases same : held.key = .of instanceId <;> simp [release, same]

theorem find?_congr (same : InstanceKey.of instanceId = .of other) :
    table.find? instanceId = table.find? other := by
  simp only [find?, same]

theorem find?_hold_self (table : InFlight τ) (instanceId : Value)
    (pending : Option (PendingOperation τ)) :
    ∃ held, (table.hold instanceId pending).find? instanceId = some held ∧
      held.pending = pending := by
  induction table with
  | nil => exact ⟨⟨instanceId, pending⟩, by simp [hold, find?, Held.key], rfl⟩
  | cons held rest ih =>
      by_cases same : held.key = .of instanceId
      · have kept : ({ held with pending } : Held τ).key = .of instanceId := same
        refine ⟨{ held with pending }, ?_, rfl⟩
        rw [hold, if_pos same, find?_cons, if_pos kept]
      · rw [hold, if_neg same, find?_cons, if_neg same]
        exact ih

theorem find?_hold_of_ne (apart : InstanceKey.of other ≠ .of instanceId) :
    (table.hold instanceId pending).find? other = table.find? other := by
  induction table with
  | nil => rw [hold, find?_cons, if_neg fun same => apart same.symm]
  | cons held rest ih =>
      by_cases same : held.key = .of instanceId
      · have different : held.key ≠ .of other := fun again => apart (again.symm.trans same)
        have kept : ({ held with pending } : Held τ).key ≠ .of other := different
        rw [hold, if_pos same, find?_cons, if_neg kept, find?_cons, if_neg different]
      · rw [hold, if_neg same, find?_cons, find?_cons, ih]

theorem release_hold (table : InFlight τ) (instanceId : Value)
    (pending : Option (PendingOperation τ)) :
    (table.hold instanceId pending).release instanceId = table.release instanceId := by
  induction table with
  | nil => simp [hold, release, Held.key]
  | cons held rest ih =>
      by_cases same : held.key = .of instanceId
      · have kept : ({ held with pending } : Held τ).key = .of instanceId := same
        rw [hold, if_pos same, release_cons, if_pos kept, release_cons, if_pos same]
      · rw [hold, if_neg same, release_cons, if_neg same, release_cons, if_neg same, ih]

theorem release_of_free (free : table.find? instanceId = none) :
    table.release instanceId = table := by
  rw [find?, List.find?_eq_none] at free
  rw [release, List.filter_eq_self]
  intro held member
  simpa using free held member

theorem find?_release_of_ne (apart : InstanceKey.of other ≠ .of instanceId) :
    (table.release instanceId).find? other = table.find? other := by
  induction table with
  | nil => rfl
  | cons held rest ih =>
      by_cases same : held.key = .of instanceId
      · have different : held.key ≠ .of other := fun again => apart (again.symm.trans same)
        rw [release_cons, if_pos same, find?_cons, if_neg different, ih]
      · rw [release_cons, if_neg same, find?_cons, find?_cons, ih]

end Lemmas

end InFlight

end CacheSteward
