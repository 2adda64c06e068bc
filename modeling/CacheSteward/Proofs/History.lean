import CacheSteward.Session

namespace CacheSteward

/-! What a history says about the operation that left it.

Between a call and its answer lies whatever ran inside the call, so that calls and answers are
paired like brackets.  What an operation itself asked for stands outside of all brackets.
-/

variable {τ : Type}

/-- A call on an instance, under whatever form of its id. -/
def RemoteCall.Names (instanceId : Value) (call : RemoteCall) : Prop :=
  ∃ named, call.instanceId? = some named ∧ InstanceKey.of named = .of instanceId

/-- Every call on an instance finds the same operation pending for it. -/
def Shows (instanceId : Value) (pending : Option (PendingOperation τ))
    (events : List (Event τ)) : Prop :=
  ∀ call shown, .called call shown ∈ events → call.Names instanceId → shown = pending

theorem Shows.append {instanceId : Value} {pending : Option (PendingOperation τ)}
    {first second : List (Event τ)} (left : Shows instanceId pending first)
    (right : Shows instanceId pending second) : Shows instanceId pending (first ++ second) := by
  intro call shown member names
  rcases List.mem_append.mp member with early | late
  · exact left call shown early names
  · exact right call shown late names

/-- A call to the control plane, what was pending for its instance, and its outcome. -/
structure Exchange (τ : Type) where
  call : RemoteCall
  pending : Option (PendingOperation τ)
  outcome : Except Fault Value

def Exchange.shown (exchange : Exchange τ) : RemoteCall × Option (PendingOperation τ) :=
  (exchange.call, exchange.pending)

def Exchange.answer (exchange : Exchange τ) : RemoteCall × Except Fault Value :=
  (exchange.call, exchange.outcome)

namespace Event

def call? : Event τ → Option RemoteCall
  | .called call _ => some call
  | _ => none

def answer? : Event τ → Option (RemoteCall × Except Fault Value)
  | .answered call outcome => some (call, outcome)
  | _ => none

def audit? : Event τ → Option LogRecord
  | .logged record => if record.channel = .audit then some record else none
  | _ => none

end Event

def callsOf (events : List (Event τ)) : List RemoteCall := events.filterMap Event.call?

def answersOf (events : List (Event τ)) : List (RemoteCall × Except Fault Value) :=
  events.filterMap Event.answer?

/-- The audit trail. -/
def auditsOf (events : List (Event τ)) : List LogRecord := events.filterMap Event.audit?

/-- The event that an audit record notes. -/
def LogRecord.event? (record : LogRecord) : Option String :=
  (record.extras.lookup "operation").bind Value.text?

@[simp]
theorem AuditEntry.event?_record (entry : AuditEntry) : entry.record.event? = some entry.event :=
  rfl

/-- The calls outside of all brackets, when so many brackets are open. -/
def ownCallsFrom : Nat → List (Event τ) → List (RemoteCall × Option (PendingOperation τ))
  | _, [] => []
  | 0, .called call pending :: rest => (call, pending) :: ownCallsFrom 1 rest
  | opened + 1, .called _ _ :: rest => ownCallsFrom (opened + 2) rest
  | opened, .answered _ _ :: rest => ownCallsFrom (opened - 1) rest
  | opened, .slept _ :: rest => ownCallsFrom opened rest
  | opened, .logged _ :: rest => ownCallsFrom opened rest

/-- The calls that no other call encloses, with what each showed as pending. -/
def ownCalls (events : List (Event τ)) : List (RemoteCall × Option (PendingOperation τ)) :=
  ownCallsFrom 0 events

/-- Histories in which every call is answered. -/
inductive Balanced : List (Event τ) → Prop where
  | nil : Balanced []
  | slept (span : τ) {events : List (Event τ)} (rest : Balanced events) :
      Balanced (.slept span :: events)
  | logged (record : LogRecord) {events : List (Event τ)} (rest : Balanced events) :
      Balanced (.logged record :: events)
  | bracket (call : RemoteCall) (pending : Option (PendingOperation τ))
      (outcome : Except Fault Value) {inner events : List (Event τ)} (enclosed : Balanced inner)
      (rest : Balanced events) :
      Balanced (.called call pending :: (inner ++ .answered call outcome :: events))

namespace Balanced

theorem append {first second : List (Event τ)} (left : Balanced first) (right : Balanced second) :
    Balanced (first ++ second) := by
  induction left with
  | nil => exact right
  | slept span rest ih => exact .slept span ih
  | logged record rest ih => exact .logged record ih
  | bracket call pending outcome enclosed rest _ ih =>
      rw [List.cons_append, List.append_assoc, List.cons_append]
      exact .bracket call pending outcome enclosed ih

/-- What lies inside of a bracket is passed over. -/
theorem ownCallsFrom_append {inner : List (Event τ)} (enclosed : Balanced inner) (opened : Nat)
    (rest : List (Event τ)) :
    ownCallsFrom (opened + 1) (inner ++ rest) = ownCallsFrom (opened + 1) rest := by
  induction enclosed generalizing opened rest with
  | nil => rfl
  | slept span _ ih => exact ih opened rest
  | logged record _ ih => exact ih opened rest
  | bracket call pending outcome _ _ insideIh restIh =>
      rw [List.cons_append, List.append_assoc, List.cons_append]
      exact (insideIh (opened + 1) _).trans (restIh opened rest)

end Balanced

/-- What may lie between a call, at which something is pending for its instance, and its answer. -/
abbrev Enclosure (τ : Type) := RemoteCall → Option (PendingOperation τ) → List (Event τ) → Prop

/-- Nothing happens between a call and its answer. -/
def Bare : Enclosure τ := fun _ _ inner => inner = []

/-- What is pending for the instance of a call stays pending until the call is answered. -/
def Undisturbed : Enclosure τ := fun call pending inner =>
  ∀ instanceId operation, call.Names instanceId → pending = some operation →
    Shows instanceId (some operation) inner

/-- A history told by the exchanges of its operation and its audit records.  `inside` says what may
lie inside of the bracket of a call. -/
inductive Told (inside : Enclosure τ) :
    List (Event τ) → List (Exchange τ) → List LogRecord → Prop where
  | nil : Told inside [] [] []
  | slept (span : τ) {events : List (Event τ)} {exchanges : List (Exchange τ)}
      {audits : List LogRecord} (rest : Told inside events exchanges audits) :
      Told inside (.slept span :: events) exchanges audits
  | logged {record : LogRecord} (ordinary : record.channel ≠ .audit) {events : List (Event τ)}
      {exchanges : List (Exchange τ)} {audits : List LogRecord}
      (rest : Told inside events exchanges audits) :
      Told inside (.logged record :: events) exchanges audits
  | audited {record : LogRecord} (audit : record.channel = .audit) {events : List (Event τ)}
      {exchanges : List (Exchange τ)} {audits : List LogRecord}
      (rest : Told inside events exchanges audits) :
      Told inside (.logged record :: events) exchanges (record :: audits)
  | exchanged (call : RemoteCall) (pending : Option (PendingOperation τ))
      (outcome : Except Fault Value) {inner events : List (Event τ)}
      {exchanges : List (Exchange τ)} {audits : List LogRecord} (enclosed : Balanced inner)
      (allowed : inside call pending inner) (rest : Told inside events exchanges audits) :
      Told inside (.called call pending :: (inner ++ .answered call outcome :: events))
        (⟨call, pending, outcome⟩ :: exchanges) audits

namespace Told

variable {inside : Enclosure τ} {events : List (Event τ)}
  {exchanges : List (Exchange τ)} {audits : List LogRecord}

theorem append {more : List (Event τ)} {others : List (Exchange τ)} {further : List LogRecord}
    (left : Told inside events exchanges audits) (right : Told inside more others further) :
    Told inside (events ++ more) (exchanges ++ others) (audits ++ further) := by
  induction left with
  | nil => exact right
  | slept span rest ih => exact .slept span ih
  | logged ordinary rest ih => exact .logged ordinary ih
  | audited audit rest ih => exact .audited audit ih
  | exchanged call pending outcome enclosed allowed rest ih =>
      rw [List.cons_append, List.append_assoc, List.cons_append]
      exact .exchanged call pending outcome enclosed allowed ih

theorem ownCalls (told : Told inside events exchanges audits) :
    ownCalls events = exchanges.map Exchange.shown := by
  unfold CacheSteward.ownCalls
  induction told with
  | nil => rfl
  | slept span rest ih => exact ih
  | logged ordinary rest ih => exact ih
  | audited audit rest ih => exact ih
  | exchanged call pending outcome enclosed allowed rest ih =>
      exact congrArg ((call, pending) :: ·) ((enclosed.ownCallsFrom_append 0 _).trans ih)

theorem called_mem (told : Told inside events exchanges audits) :
    ∀ exchange ∈ exchanges, .called exchange.call exchange.pending ∈ events := by
  induction told with
  | nil => nofun
  | slept span rest ih => exact fun exchange member => .tail _ (ih exchange member)
  | logged ordinary rest ih => exact fun exchange member => .tail _ (ih exchange member)
  | audited audit rest ih => exact fun exchange member => .tail _ (ih exchange member)
  | exchanged call pending outcome enclosed allowed rest ih =>
      intro exchange member
      rcases List.mem_cons.mp member with rfl | later
      · exact .head _
      · exact .tail _ (List.mem_append_right _ (.tail _ (ih exchange later)))

theorem answered_mem (told : Told inside events exchanges audits) :
    ∀ exchange ∈ exchanges, .answered exchange.call exchange.outcome ∈ events := by
  induction told with
  | nil => nofun
  | slept span rest ih => exact fun exchange member => .tail _ (ih exchange member)
  | logged ordinary rest ih => exact fun exchange member => .tail _ (ih exchange member)
  | audited audit rest ih => exact fun exchange member => .tail _ (ih exchange member)
  | exchanged call pending outcome enclosed allowed rest ih =>
      intro exchange member
      rcases List.mem_cons.mp member with rfl | later
      · exact .tail _ (List.mem_append_right _ (.head _))
      · exact .tail _ (List.mem_append_right _ (.tail _ (ih exchange later)))

theorem balanced (told : Told inside events exchanges audits) : Balanced events := by
  induction told with
  | nil => exact .nil
  | slept span rest ih => exact .slept span ih
  | logged ordinary rest ih => exact .logged _ ih
  | audited audit rest ih => exact .logged _ ih
  | exchanged call pending outcome enclosed allowed rest ih =>
      exact .bracket call pending outcome enclosed ih

/-- Where no bracket is allowed there is no call. -/
theorem silent (told : Told (fun _ _ _ => False) events exchanges audits) (call : RemoteCall)
    (pending : Option (PendingOperation τ)) : .called call pending ∉ events := by
  induction told with
  | nil => nofun
  | slept span rest ih | logged ordinary rest ih | audited audit rest ih =>
      intro member
      cases member with
      | tail _ later => exact ih later
  | exchanged call pending outcome enclosed allowed rest ih => exact allowed.elim

/-- When nothing runs inside of calls, the exchanges are all the calls there are. -/
theorem flat (told : Told Bare events exchanges audits) :
    callsOf events = exchanges.map Exchange.call ∧
      answersOf events = exchanges.map Exchange.answer := by
  induction told with
  | nil => exact ⟨rfl, rfl⟩
  | slept span rest ih => exact ih
  | logged ordinary rest ih => exact ih
  | audited audit rest ih => exact ih
  | @exchanged call pending outcome inner _ _ _ enclosed allowed rest ih =>
      obtain rfl : inner = [] := allowed
      exact ⟨congrArg (call :: ·) ih.1, congrArg ((call, outcome) :: ·) ih.2⟩

/-- When nothing runs inside of calls, the audit records are the whole audit trail. -/
theorem trail (told : Told Bare events exchanges audits) : auditsOf events = audits := by
  unfold auditsOf
  induction told with
  | nil => rfl
  | slept span rest ih => exact ih
  | @logged record ordinary _ _ _ rest ih =>
      have passed : (Event.logged record : Event τ).audit? = none := if_neg ordinary
      rw [List.filterMap_cons_none passed, ih]
  | @audited record audit _ _ _ rest ih =>
      have kept : (Event.logged record : Event τ).audit? = some record := if_pos audit
      rw [List.filterMap_cons_some kept, ih]
  | @exchanged call pending outcome inner _ _ _ enclosed allowed rest ih =>
      obtain rfl : inner = [] := allowed
      exact ih

end Told

end CacheSteward
