import CacheSteward.Proofs.Conduct

namespace CacheSteward

/-! Whose calls a history holds.

In a run operations are started one after another, and inside of each of their calls others may be
started before the call is answered.  A ledger of such a run lists all these operations, each with
what happened from its start to its end, so that every call belongs to one of them.
-/

variable {τ : Type}

/-- An operation of a run, with how many client tokens had been drawn when it was started and with
what happened from then on until it ended. -/
structure Operated (τ : Type) where
  operation : Operation τ
  drawn : Nat
  events : List (Event τ)

/-- History is written within an operation, or between operations that are started one after
another. -/
inductive Place where
  | within
  | between

/-- The calls that are not made inside of other calls, when they are made at a place.  Between
operations there are none. -/
def Place.calls : Place → List (Event τ) → List RemoteCall
  | .within, events => (ownCalls events).map Prod.fst
  | .between, _ => []

namespace Operated

/-- The calls that an operation makes itself. -/
def calls (operated : Operated τ) : List RemoteCall := Place.within.calls operated.events

/-- A call of the operation carries a client token. -/
def Stamped (operated : Operated τ) : Prop :=
  ∃ call ∈ operated.calls, ∃ clientToken, call.clientToken? = some clientToken

end Operated

/-- The operations that were started in a history, or in a part of it.  An operation comes before
those inside of its calls.  All of them are of the given kind. -/
inductive Ledger (genuine : Operated τ → Prop) :
    Place → List (Event τ) → List (Operated τ) → Prop where
  | nil (place : Place) : Ledger genuine place [] []
  | slept (span : τ) {events : List (Event τ)} {row : List (Operated τ)}
      (rest : Ledger genuine .within events row) :
      Ledger genuine .within (.slept span :: events) row
  | logged (record : LogRecord) {events : List (Event τ)} {row : List (Operated τ)}
      (rest : Ledger genuine .within events row) :
      Ledger genuine .within (.logged record :: events) row
  | exchanged (call : RemoteCall) (pending : Option (PendingOperation τ))
      (outcome : Except Fault Value) {inner events : List (Event τ)}
      {inside row : List (Operated τ)} (enclosed : Ledger genuine .between inner inside)
      (rest : Ledger genuine .within events row) :
      Ledger genuine .within (.called call pending :: (inner ++ .answered call outcome :: events))
        (inside ++ row)
  | operated {operated : Operated τ} (sound : genuine operated) {inside row : List (Operated τ)}
      {events : List (Event τ)} (enclosed : Ledger genuine .within operated.events inside)
      (rest : Ledger genuine .between events row) :
      Ledger genuine .between (operated.events ++ events) (operated :: (inside ++ row))

theorem Balanced.ownCalls_append {first second : List (Event τ)} (balanced : Balanced first) :
    ownCalls (first ++ second) = ownCalls first ++ ownCalls second := by
  unfold ownCalls
  induction balanced with
  | nil => rfl
  | slept span rest ih => exact ih
  | logged record rest ih => exact ih
  | bracket call pending outcome enclosed rest _ ih =>
      have passed : ∀ events, ownCallsFrom 1 (_ ++ .answered call outcome :: events) =
          ownCallsFrom 0 events := fun events => enclosed.ownCallsFrom_append 0 _
      rw [List.cons_append, List.append_assoc, List.cons_append]
      simp only [ownCallsFrom, passed, ih, List.cons_append]

/-- A bracket is one call outside of all others. -/
theorem Balanced.ownCalls_bracket {inner : List (Event τ)} (enclosed : Balanced inner)
    (call : RemoteCall) (pending : Option (PendingOperation τ)) (outcome : Except Fault Value)
    (events : List (Event τ)) :
    ownCalls (.called call pending :: (inner ++ .answered call outcome :: events)) =
      (call, pending) :: ownCalls events :=
  congrArg ((call, pending) :: ·) (enclosed.ownCallsFrom_append 0 _)

theorem Place.calls_append {first : List (Event τ)} (balanced : Balanced first) (place : Place)
    (second : List (Event τ)) :
    place.calls (first ++ second) = place.calls first ++ place.calls second := by
  cases place with
  | within => simp only [Place.calls, balanced.ownCalls_append, List.map_append]
  | between => rfl

theorem callsOf_append (first second : List (Event τ)) :
    callsOf (first ++ second) = callsOf first ++ callsOf second :=
  List.filterMap_append

namespace Ledger

variable {genuine : Operated τ → Prop} {place : Place} {events : List (Event τ)}
  {row : List (Operated τ)}

theorem append {more : List (Event τ)} {others : List (Operated τ)}
    (first : Ledger genuine place events row) (second : Ledger genuine place more others) :
    Ledger genuine place (events ++ more) (row ++ others) := by
  induction first with
  | nil place => exact second
  | slept span rest ih => exact .slept span (ih second)
  | logged record rest ih => exact .logged record (ih second)
  | exchanged call pending outcome enclosed rest _ ih =>
      rw [List.cons_append, List.append_assoc, List.cons_append, List.append_assoc]
      exact .exchanged call pending outcome enclosed (ih second)
  | operated sound enclosed rest _ ih =>
      rw [List.append_assoc, List.cons_append, List.append_assoc]
      exact .operated sound enclosed (ih second)

theorem balanced (ledger : Ledger genuine place events row) : Balanced events := by
  induction ledger with
  | nil place => exact .nil
  | slept span rest ih => exact .slept span ih
  | logged record rest ih => exact .logged record ih
  | exchanged call pending outcome enclosed rest inside ih =>
      exact .bracket call pending outcome inside ih
  | operated sound enclosed rest inside ih => exact inside.append ih

theorem genuine_of_mem (ledger : Ledger genuine place events row) :
    ∀ operated ∈ row, genuine operated := by
  induction ledger with
  | nil place => exact List.forall_mem_nil genuine
  | slept span rest ih => exact ih
  | logged record rest ih => exact ih
  | exchanged call pending outcome enclosed rest inside ih =>
      exact List.forall_mem_append.mpr ⟨inside, ih⟩
  | operated sound enclosed rest inside ih =>
      exact List.forall_mem_cons.mpr ⟨sound, List.forall_mem_append.mpr ⟨inside, ih⟩⟩

/-- Every call is a call of the place itself or of one of the operations, and is so only once. -/
theorem calls_perm (ledger : Ledger genuine place events row) :
    (callsOf events).Perm (place.calls events ++ row.flatMap Operated.calls) := by
  induction ledger with
  | nil place => cases place <;> exact .refl _
  | slept span rest ih => exact ih
  | logged record rest ih => exact ih
  | @exchanged call pending outcome inner events inside row enclosed rest insideIh ih =>
      have split : callsOf (.called call pending :: (inner ++ .answered call outcome :: events)) =
          call :: (callsOf inner ++ callsOf events) := by
        simp [callsOf, Event.call?, List.filterMap_cons]
      have own : Place.within.calls
          (.called call pending :: (inner ++ .answered call outcome :: events)) =
          call :: Place.within.calls events := by
        simp only [Place.calls, enclosed.balanced.ownCalls_bracket, List.map_cons]
      rw [split, own, List.flatMap_append, List.cons_append]
      apply List.Perm.cons
      apply (insideIh.append ih).trans
      rw [← List.append_assoc, ← List.append_assoc]
      exact List.perm_append_comm.append_right _
  | @operated operated sound inside row events enclosed rest insideIh ih =>
      have none : Place.between.calls (operated.events ++ events) = [] := rfl
      rw [callsOf_append, none, List.nil_append, List.flatMap_cons, List.flatMap_append,
        ← List.append_assoc]
      exact insideIh.append ih

end Ledger

/-- Operations that carry a token draw it between two numbers of drawn tokens, and each draws its
own. -/
structure Numbered (start stop : Nat) (row : List (Operated τ)) : Prop where
  le : start ≤ stop
  bounds : ∀ operated ∈ row, operated.Stamped → start ≤ operated.drawn ∧ operated.drawn < stop
  apart : row.Pairwise fun one other => one.Stamped → other.Stamped → one.drawn ≠ other.drawn

namespace Numbered

variable {start middle stop : Nat} {row others : List (Operated τ)}

theorem none (le : start ≤ stop) : Numbered start stop ([] : List (Operated τ)) where
  le := le
  bounds _ member := absurd member List.not_mem_nil
  apart := .nil

theorem append (first : Numbered start middle row) (second : Numbered middle stop others) :
    Numbered start stop (row ++ others) where
  le := Nat.le_trans first.le second.le
  bounds operated member stamped := by
    have le := first.le
    have leRest := second.le
    rcases List.mem_append.mp member with early | late
    · have bounds := first.bounds operated early stamped
      omega
    · have bounds := second.bounds operated late stamped
      omega
  apart := by
    apply List.pairwise_append.mpr
    refine ⟨first.apart, second.apart, ?_⟩
    intro one early other late stamped otherStamped
    have bounds := first.bounds one early stamped
    have otherBounds := second.bounds other late otherStamped
    omega

/-- An operation that draws the first token has it for itself. -/
theorem drawing {operated : Operated τ} (first : operated.drawn = start)
    (numbered : Numbered (start + 1) stop row) : Numbered start stop (operated :: row) where
  le := Nat.le_of_lt numbered.le
  bounds other member stamped := by
    have le := numbered.le
    rcases List.mem_cons.mp member with rfl | inside
    · omega
    · have bounds := numbered.bounds other inside stamped
      omega
  apart := by
    apply List.pairwise_cons.mpr
    refine ⟨?_, numbered.apart⟩
    intro other inside _ stamped
    have bounds := numbered.bounds other inside stamped
    omega

theorem bare {operated : Operated τ} (bare : ¬ operated.Stamped)
    (numbered : Numbered start stop row) : Numbered start stop (operated :: row) where
  le := numbered.le
  bounds := List.forall_mem_cons.mpr ⟨fun stamped => absurd stamped bare, numbered.bounds⟩
  apart := List.pairwise_cons.mpr ⟨fun _ _ stamped => absurd stamped bare, numbered.apart⟩

/-- The number of the token tells the operations of a row apart. -/
theorem index_eq_iff (numbered : Numbered start stop row) {i j : Nat} (inRow : i < row.length)
    (otherInRow : j < row.length) (stamped : row[i].Stamped) (otherStamped : row[j].Stamped) :
    row[i].drawn = row[j].drawn ↔ i = j := by
  have apart := List.pairwise_iff_getElem.mp numbered.apart
  constructor
  · intro same
    rcases Nat.lt_trichotomy i j with before | equal | behind
    · exact absurd same (apart i j inRow otherInRow before stamped otherStamped)
    · exact equal
    · exact absurd same.symm (apart j i otherInRow inRow behind otherStamped stamped)
  · intro equal
    subst equal
    rfl

end Numbered

end CacheSteward
