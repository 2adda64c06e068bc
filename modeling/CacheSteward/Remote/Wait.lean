import CacheSteward.Budget
import CacheSteward.Fault.Disposition
import CacheSteward.Instance.Detail
import CacheSteward.Session

namespace CacheSteward

/-! Waiting for an instance to reach a status.

The detail of the instance is polled one interval apart.  What a poll shows is judged first, and
only then the clock: a target that is met on the last poll still counts.
-/

variable {τ ω : Type}

structure Wait (τ : Type) where
  instanceId : Value
  kind : OperationKind
  bad : List InstanceStatus
  target : List InstanceStatus
  /-- An instance that is gone has reached the target. -/
  goneIsTarget : Bool
  /-- A detail that does not pass is stale: its status does not count as reached. -/
  check : Option (Value → Bool)
  timeout : τ
  interval : τ

inductive Sighting where
  | reached (status : InstanceStatus)
  | gone
  | failed (fault : Fault)
  /-- A target status in a detail that does not show the change yet. -/
  | stale (status : InstanceStatus)
  | passing (status : InstanceStatus)
  | transient (fault : Fault)

namespace Wait

/-- A wait under a budget.  Unless it is told otherwise it belongs to a read, takes an instance that
is gone for one that has reached the target only when it belongs to a delete, and has the whole
timeout. -/
def under (budget : Budget τ) (instanceId : Value) (bad target : List InstanceStatus)
    (kind : Option OperationKind) (goneIsTarget : Option Bool) (check : Option (Value → Bool))
    (timeout : Option τ) : Wait τ :=
  let kind := kind.getD .read
  { instanceId, kind, bad, target, goneIsTarget := goneIsTarget.getD (kind == .delete), check
    timeout := timeout.getD budget.timeout, interval := budget.interval }

def passes (wait : Wait τ) (detail : Value) : Bool :=
  match wait.check with
  | some check => check detail
  | none => true

def judgeFailure (wait : Wait τ) (raw : Fault) : Sighting :=
  let disposition := raw.disposition wait.kind
  if disposition = .notFound ∧ wait.goneIsTarget then .gone
  else if disposition = .transient then .transient raw
  else .failed (raw.recast disposition wait.kind wait.instanceId)

def judgeStatus (wait : Wait τ) (status : InstanceStatus) (detail : Value) : Sighting :=
  if status ∈ wait.target then
    if wait.passes detail then .reached status else .stale status
  else if status ∈ wait.bad then
    .failed (.unexpectedState (.text status.word) (some wait.kind.word) wait.instanceId)
  else .passing status

/-- A detail; one without a known status ends the wait. -/
def judgeDetail (wait : Wait τ) (detail : Value) : Sighting :=
  match Detail.get "instanceStatus" detail with
  | .error fault => .failed fault
  | .ok raw =>
      match InstanceStatus.parse (raw.getD .null) wait.instanceId (some wait.kind.word) with
      | .error fault => .failed fault
      | .ok status => wait.judgeStatus status detail

def judge (wait : Wait τ) : Except Fault Value → Sighting
  | .ok detail => wait.judgeDetail detail
  | .error raw => wait.judgeFailure raw

def statusOf? (outcome : Except Fault Value) : Option InstanceStatus :=
  match outcome with
  | .ok detail => (detail.get? "instanceStatus").bind fun raw =>
      raw.text?.bind Enumerated.ofWord?
  | .error _ => none

def record (wait : Wait τ) (level : LogLevel) (message : String) : LogRecord :=
  { level
    channel := .waiter
    message
    extras := [("instance_id", wait.instanceId), ("operation", .text wait.kind.word)] }

/-- What a poll leaves in the log.  A status is noted when it is not the one seen last. -/
def remarks (wait : Wait τ) (polls : Nat) (last : Option InstanceStatus)
    (outcome : Except Fault Value) : List LogRecord :=
  let note := wait.record
  let instanceText := wait.instanceId.shown
  let seen := match statusOf? outcome with
    | some status =>
        if some status = last then []
        else [note .debug ("Instance " ++ instanceText ++ " is " ++ status.word ++ " (poll " ++
          toString polls ++ ")")]
    | none => []
  seen ++ match wait.judge outcome with
    | .reached status => [note .info ("Instance " ++ instanceText ++ " reached " ++
        status.word ++ " after " ++ toString polls ++ " polls")]
    | .gone => [note .info ("Instance " ++ instanceText ++ " is gone after " ++
        toString polls ++ " polls")]
    | .stale status => [note .debug ("Instance " ++ instanceText ++ " reports " ++
        status.word ++ " but the change is not applied yet")]
    | .transient fault => [note .warning ("Transient failure polling instance " ++
        instanceText ++ ": " ++ fault.text)]
    | _ => []

def targetWords (wait : Wait τ) : List String :=
  (((Enumerated.all : List InstanceStatus).filter (· ∈ wait.target)).map
    InstanceStatus.word).mergeSort fun a b => decide (a ≤ b)

variable [Timescale τ]

def exhausted (wait : Wait τ) (elapsed : τ) (last : Option InstanceStatus) : Fault :=
  .operationTimeout
    ("Instance " ++ wait.instanceId.shown ++ " did not reach [" ++
      Rule.quotedList wait.targetWords ++ "] within " ++ Timescale.wholeText wait.timeout ++
      " seconds")
    (Timescale.value elapsed) (Timescale.roundedValue elapsed) (some wait.kind.word)
    wait.instanceId (last.map InstanceStatus.word) none

/-- Polls until the wait ends, at most `horizon` times.  `polls` counts the polls made so far and
`last` is the status seen last. -/
def pollFrom (surroundings : Surroundings τ ω) (wait : Wait τ) (start : τ) :
    Nat → Nat → Option InstanceStatus → Run τ ω InstanceStatus
  | 0, _, _ => throw .unfinished
  | horizon + 1, polls, last => do
      let outcome ← Run.remote surroundings (.getInstanceDetail wait.instanceId)
      (wait.remarks (polls + 1) last outcome).forM Run.log
      match wait.judge outcome with
      | .reached status => return status
      | .gone => return .deleted
      | .failed fault => Run.fail fault
      | _ =>
          let last := (statusOf? outcome).or last
          let elapsed ← Run.elapsed surroundings start
          if Timescale.atMost wait.timeout elapsed then Run.fail (wait.exhausted elapsed last)
          else
            Run.sleep surroundings wait.interval
            pollFrom surroundings wait start horizon (polls + 1) last

def perform (surroundings : Surroundings τ ω) (horizon : Nat) (wait : Wait τ) :
    Run τ ω InstanceStatus := do
  let start ← Run.now surroundings
  pollFrom surroundings wait start horizon 0 none

end Wait

end CacheSteward
