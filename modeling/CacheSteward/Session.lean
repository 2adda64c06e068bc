import CacheSteward.InFlight
import CacheSteward.Journal
import CacheSteward.Remote.Call
import CacheSteward.Timescale

namespace CacheSteward

/-! The state in which operations run, and the few ways in which they touch it.

Operations call the control plane, read the clock, sleep, draw client tokens, hold instances and
write log records.  Everything of this that can be seen from outside is kept as a history.
-/

/-- What happened, as far as it can be seen from outside. -/
inductive Event (τ : Type) where
  /-- A call, with what was pending for the instance it names. -/
  | called (call : RemoteCall) (pending : Option (PendingOperation τ))
  /-- The outcome of a call.  Whatever the call ran before it answered lies in between. -/
  | answered (call : RemoteCall) (outcome : Except Fault Value)
  | slept (span : τ)
  | logged (record : LogRecord)

/-- `world` is whatever the surroundings need to answer calls and to tell the time. -/
structure Session (τ ω : Type) where
  world : ω
  inFlight : InFlight τ := []
  drawn : Nat := 0
  /-- The newest event comes first. -/
  history : List (Event τ) := []

/-- What operations find around them.  A call may run other operations before it answers. -/
structure Surroundings (τ ω : Type) where
  call : RemoteCall → StateM (Session τ ω) (Except Fault Value)
  now : StateM ω τ
  sleep : τ → ω → ω
  token : Nat → String

/-- Surroundings whose calls only touch the world. -/
def Surroundings.ofAnswers {τ ω : Type} (answer : RemoteCall → StateM ω (Except Fault Value))
    (now : StateM ω τ) (sleep : τ → ω → ω) (token : Nat → String) : Surroundings τ ω where
  call remoteCall session :=
    let (outcome, world) := answer remoteCall session.world
    (outcome, { session with world })
  now := now
  sleep := sleep
  token := token

inductive Halt where
  | fault (fault : Fault)
  /-- A wait was cut short at its horizon. -/
  | unfinished
deriving DecidableEq

abbrev Run (τ ω α : Type) := ExceptT Halt (StateM (Session τ ω)) α

namespace Session

variable {τ ω : Type}

def note (event : Event τ) (session : Session τ ω) : Session τ ω :=
  { session with history := event :: session.history }

def events (session : Session τ ω) : List (Event τ) := session.history.reverse

end Session

namespace Run

variable {τ ω α : Type}

def fail (fault : Fault) : Run τ ω α := throw (.fault fault)

def ofExcept : Except Fault α → Run τ ω α
  | .ok a => pure a
  | .error fault => fail fault

def log (record : LogRecord) : Run τ ω Unit := modify (Session.note (.logged record))

def audit (entry : AuditEntry) : Run τ ω Unit := log entry.record

def now (surroundings : Surroundings τ ω) : Run τ ω τ :=
  modifyGet fun session =>
    let (reading, world) := surroundings.now session.world
    (reading, { session with world })

def elapsed [Timescale τ] (surroundings : Surroundings τ ω) (start : τ) : Run τ ω τ := do
  return Timescale.minus (← now surroundings) start

def sleep (surroundings : Surroundings τ ω) (span : τ) : Run τ ω Unit :=
  modify fun session =>
    Session.note (.slept span) { session with world := surroundings.sleep span session.world }

def draw (surroundings : Surroundings τ ω) : Run τ ω String :=
  modifyGet fun session =>
    (surroundings.token session.drawn, { session with drawn := session.drawn + 1 })

/-- Calls the control plane.  A failure of the call is an outcome, not the end of the run. -/
def remote (surroundings : Surroundings τ ω) (call : RemoteCall) :
    Run τ ω (Except Fault Value) :=
  fun session =>
    let pending := call.instanceId?.bind session.inFlight.pending?
    let (outcome, session) := surroundings.call call (session.note (.called call pending))
    (.ok outcome, session.note (.answered call outcome))

def setPending (instanceId : Value) (pending : Option (PendingOperation τ)) : Run τ ω Unit :=
  modify fun session =>
    { session with inFlight := session.inFlight.hold instanceId pending }

/-- Runs `last` after `body`, however that ends. -/
def followedBy (body : Run τ ω α) (last : Session τ ω → Session τ ω) : Run τ ω α :=
  fun session =>
    let (outcome, session) := body session
    (outcome, last session)

/-- Runs `notice` when `body` ends with a known fault, which goes on unchanged. -/
def onKnownFault (body : Run τ ω α) (notice : Fault → Run τ ω Unit) : Run τ ω α :=
  tryCatch body fun halt => do
    match halt with
    | .fault fault => if fault.isKnown then notice fault
    | .unfinished => pure ()
    throw halt

/-- Holds an instance while `body` runs.  An instance that is held already is refused. -/
def claiming (instanceId : Value) (body : Run τ ω α) : Run τ ω α := do
  unless instanceId.isKey do fail (.noKey instanceId)
  match (← get).inFlight.find? instanceId with
  | some held =>
      fail (.operationInProgress instanceId (held.pending.map fun pending => pending.kind.word))
  | none =>
      setPending instanceId none
      followedBy body fun session =>
        { session with inFlight := session.inFlight.release instanceId }

end Run

end CacheSteward
