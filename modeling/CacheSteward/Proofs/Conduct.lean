import CacheSteward.Proofs.Lifecycle

namespace CacheSteward

/-! Operations that run inside of calls.

A control plane may be used by the very program that serves it: before it answers a call it starts
operations on the same service, whose calls it conducts in turn.  Such conduct is a tree, and the
table of held instances is the only thing that its operations share.
-/

variable {τ ω : Type}

/-- An operation of a service. -/
inductive Operation (τ : Type) where
  | create (spec : DesiredSpec) (timeout : Option τ)
  | read (instanceId : Value)
  | adopt (instanceId : Value)
  | reconcile (handle : InstanceHandle) (spec : DesiredSpec) (timeout : Option τ)
  | delete (instanceId : Value) (timeout : Option τ)

/-- What happens inside of a call.  Operations are started one after another, each with the conduct
of its own calls, and in the end the call is answered. -/
inductive Conduct (τ ω : Type) where
  | answer (outcome : Except Fault Value) (world : ω)
  | start (operation : Operation τ) (within : RemoteCall → Session τ ω → Conduct τ ω)
      (next : Except Halt Unit → Session τ ω → Conduct τ ω)

variable [Timescale τ]

namespace Service

def operate (service : Service τ ω) : Operation τ → Run τ ω Unit
  | .create spec timeout => discard (service.create spec timeout)
  | .read instanceId => discard (service.read instanceId)
  | .adopt instanceId => discard (service.adopt instanceId)
  | .reconcile handle spec timeout => discard (service.reconcile handle spec timeout)
  | .delete instanceId timeout => discard (service.delete instanceId timeout)

/-- The service with the given answers to its calls. -/
def answering (service : Service τ ω)
    (call : RemoteCall → StateM (Session τ ω) (Except Fault Value)) : Service τ ω :=
  { service with surroundings := { service.surroundings with call } }

end Service

/-- Conduct in a session of a service: the outcome of the call. -/
def Conduct.run (service : Service τ ω) : Conduct τ ω → StateM (Session τ ω) (Except Fault Value)
  | .answer outcome world => fun session => (outcome, { session with world })
  | .start operation within next => fun session =>
      let inner := service.answering fun call session => (within call session).run service session
      let (result, session) := inner.operate operation session
      (next result session).run service session

namespace Service

variable {service : Service τ ω} {own : Option Value} {inside : Enclosure τ}

/-- What an operation asks for, and how it ends. -/
inductive Operating (service : Service τ ω) (table : InFlight τ) :
    Operation τ → List (Exchange τ) → Except Halt Unit → Prop where
  | create {spec : DesiredSpec} {timeout : Option τ} {exchanges : List (Exchange τ)}
      {created : Except Halt InstanceHandle}
      (creating : service.Creating table spec timeout exchanges created) :
      Operating service table (.create spec timeout) exchanges (created.map fun _ => ())
  | read {instanceId : Value} {exchanges : List (Exchange τ)}
      {seen : Except Halt (Option InstanceHandle)}
      (reading : service.Reading instanceId exchanges seen) :
      Operating service table (.read instanceId) exchanges (seen.map fun _ => ())
  | adopt {instanceId : Value} {exchanges : List (Exchange τ)}
      {seen : Except Halt (Option InstanceHandle)}
      (reading : service.Reading instanceId exchanges seen) :
      Operating service table (.adopt instanceId) exchanges
        ((existing instanceId .read seen).map fun _ => ())
  | reconcile {handle : InstanceHandle} {spec : DesiredSpec} {timeout : Option τ}
      {exchanges : List (Exchange τ)} {trail : List LogRecord}
      {reconciled : Except Halt Reconciled}
      (reconciling : service.Reconciling table handle spec timeout exchanges trail reconciled) :
      Operating service table (.reconcile handle spec timeout) exchanges
        (reconciled.map fun _ => ())
  | delete {instanceId : Value} {timeout : Option τ} {exchanges : List (Exchange τ)}
      {status : Except Halt InstanceStatus}
      (deleting : service.Deleting table instanceId timeout exchanges status) :
      Operating service table (.delete instanceId timeout) exchanges (status.map fun _ => ())

theorem operate_tells (encloses : service.surroundings.Encloses inside)
    (keeps : service.surroundings.Keeps) (operation : Operation τ) (before : Session τ ω) :
    (service.operate operation).Tells inside before fun exchanges _ result =>
      service.Operating before.inFlight operation exchanges result := by
  cases operation with
  | create spec timeout =>
      exact .discard ((create_tells encloses keeps spec timeout before).weaken
        fun _ _ _ creating => .create creating)
  | read instanceId =>
      exact .discard ((read_tells encloses instanceId before).weaken
        fun _ _ _ told => .read told.2)
  | adopt instanceId =>
      refine .discard ((readExisting_tells encloses instanceId .read before).weaken
        fun _ _ _ told => ?_)
      obtain ⟨_, seen, reading, rfl⟩ := told
      exact .adopt reading
  | reconcile handle spec timeout =>
      exact .discard ((reconcile_tells encloses keeps handle spec timeout before).weaken
        fun _ _ _ reconciling => .reconcile reconciling)
  | delete instanceId timeout =>
      exact .discard ((delete_tells encloses keeps instanceId timeout before).weaken
        fun _ _ _ deleting => .delete deleting)

/-- The service when its calls are conducted. -/
def within (service : Service τ ω) (conduct : RemoteCall → Session τ ω → Conduct τ ω) :
    Service τ ω :=
  service.answering fun call session => (conduct call session).run service session

theorem operate_keeps (keeps : service.surroundings.Keeps) (operation : Operation τ) :
    (service.operate operation).Keeps own := by
  cases operation with
  | create spec timeout => exact .discard (create_keeps keeps spec timeout)
  | read instanceId => exact .discard (read_keeps keeps instanceId)
  | adopt instanceId => exact .discard (readExisting_keeps keeps instanceId .read)
  | reconcile handle spec timeout => exact .discard (reconcile_keeps keeps handle spec timeout)
  | delete instanceId timeout => exact .discard (delete_keeps keeps instanceId timeout)

end Service

/-- The induction is on the tree: an operation keeps the table when its own calls do. -/
theorem Conduct.keeps (service : Service τ ω) (conduct : Conduct τ ω) (session : Session τ ω) :
    Kept none session (conduct.run service session).2 := by
  induction conduct generalizing session with
  | answer outcome world =>
      have extended : ({ session with world } : Session τ ω).events = session.events ++ [] :=
        (List.append_nil _).symm
      exact .of_silent rfl extended .nil fun _ _ => nofun
  | start operation within next withinIh nextIh =>
      have inner : (service.within within).surroundings.Keeps :=
        fun call session => withinIh call session session
      have operated : ((service.within within).operate operation).Keeps none :=
        Service.operate_keeps inner operation
      exact (operated session).trans (nextIh _ _ _)

theorem Service.within_keeps (service : Service τ ω)
    (conduct : RemoteCall → Session τ ω → Conduct τ ω) :
    (service.within conduct).surroundings.Keeps :=
  fun call session => (conduct call session).keeps service session

end CacheSteward
