import CacheSteward.Record.Violation

namespace CacheSteward

/-! Results of checking a record.

Unlike a computation that stops at its first error, checking the parts of a record reports every
violation, in the order of the parts.
-/

inductive Checked (α : Type) where
  | valid (a : α)
  | invalid (first : Violation) (rest : List Violation)

namespace Checked

variable {α β : Type}

def violations : Checked α → List Violation
  | .valid _ => []
  | .invalid first rest => first :: rest

def fail (rule : Rule) : Checked α := .invalid ⟨[], rule⟩ []

protected def map (f : α → β) : Checked α → Checked β
  | .valid a => .valid (f a)
  | .invalid first rest => .invalid first rest

/-- Both parts are checked, and the violations of the left one come first. -/
protected def apply (f : Checked (α → β)) (a : Checked α) : Checked β :=
  match f, a with
  | .valid f, .valid a => .valid (f a)
  | .valid _, .invalid first rest => .invalid first rest
  | .invalid first rest, a => .invalid first (rest ++ a.violations)

instance : Applicative Checked where
  pure := .valid
  map := Checked.map
  seq f a := Checked.apply f (a ())

def andThen (a : Checked α) (next : α → Checked β) : Checked β :=
  match a with
  | .valid a => next a
  | .invalid first rest => .invalid first rest

def under (segment : Segment) : Checked α → Checked α
  | .valid a => .valid a
  | .invalid first rest =>
      let place (v : Violation) : Violation := { v with place := segment :: v.place }
      .invalid (place first) (rest.map place)

def toOption : Checked α → Option α
  | .valid a => some a
  | .invalid _ _ => none

def ensure (a : Checked α) (passes : α → Bool) (rule : Rule) : Checked α :=
  a.andThen fun a => if passes a then .valid a else fail rule

theorem seq_valid {f : Checked (α → β)} {a : Checked α} {b : β} (applied : f <*> a = .valid b) :
    ∃ g x, f = .valid g ∧ a = .valid x ∧ b = g x := by
  change Checked.apply f a = .valid b at applied
  cases f <;> cases a <;> cases applied
  exact ⟨_, _, rfl, rfl, rfl⟩

theorem map_valid {f : α → β} {a : Checked α} {b : β} (mapped : f <$> a = .valid b) :
    ∃ x, a = .valid x ∧ b = f x := by
  change Checked.map f a = .valid b at mapped
  cases a <;> cases mapped
  exact ⟨_, rfl, rfl⟩

theorem andThen_valid {a : Checked α} {next : α → Checked β} {b : β}
    (followed : a.andThen next = .valid b) : ∃ x, a = .valid x ∧ next x = .valid b := by
  cases a with
  | valid x => exact ⟨x, rfl, followed⟩
  | invalid first rest => cases followed

@[simp] theorem under_eq_valid_iff {segment : Segment} {a : Checked α} {x : α} :
    a.under segment = .valid x ↔ a = .valid x := by
  cases a <;> simp [under]

@[simp] theorem ensure_eq_valid_iff {a : Checked α} {passes : α → Bool} {rule : Rule} {x : α} :
    a.ensure passes rule = .valid x ↔ a = .valid x ∧ passes x = true := by
  cases a with
  | valid y =>
      by_cases same : y = x
      · subst same
        cases passed : passes y <;> simp [ensure, andThen, passed, fail]
      · cases passed : passes y <;> simp [ensure, andThen, passed, fail, same]
  | invalid first rest => simp [ensure, andThen]

def each (read : Value → Checked α) : Nat → List Value → Checked (List α)
  | _, [] => .valid []
  | n, v :: rest => List.cons <$> (read v).under (.index n) <*> each read (n + 1) rest

end Checked

end CacheSteward
