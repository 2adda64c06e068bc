import CacheSteward.Plan
import CacheSteward.Remote.Attempt
import CacheSteward.Remote.Wait

namespace CacheSteward

/-! Driving instances from their observed state to a desired one.

Every operation ends with success, with a fault, or with its time spent.  Nothing is rolled back:
when a step of a reconciliation fails, the steps before it stay applied and the fault says which
they are.  At most one operation holds an instance at a time.
-/

variable {τ ω : Type}

structure Service (τ ω : Type) where
  surroundings : Surroundings τ ω
  timeouts : Timeouts τ
  /-- The most polls of one wait. -/
  horizon : Nat

inductive Reconciled where
  | unchanged (handle : InstanceHandle)
  | updated (handle : InstanceHandle)
deriving DecidableEq

def Reconciled.handle : Reconciled → InstanceHandle
  | .unchanged handle => handle
  | .updated handle => handle

namespace Service

def info (message : String) (extras : List (String × Value)) : LogRecord :=
  { level := .info, channel := .service, message, extras }

variable [Timescale τ]

/-- The operation as the table of held instances shows it. -/
def pendingOperation (kind : OperationKind) (instanceId : Value) (clientToken : String)
    (budget : Budget τ) : Except Fault (PendingOperation τ) :=
  (Timescale.settled budget.timeout).map fun timeout =>
    ⟨kind, some instanceId.shown, clientToken, timeout⟩

def announce (kind : OperationKind) (instanceId : Value) (clientToken : String)
    (budget : Budget τ) : Run τ ω Unit := do
  let pending ← Run.ofExcept (pendingOperation kind instanceId clientToken budget)
  Run.setPending instanceId (some pending)

/-- What is left of a budget since an earlier reading of the clock. -/
def remaining (service : Service τ ω) (start : τ) (budget : Budget τ) : Run τ ω τ := do
  return budget.remaining (← Run.elapsed service.surroundings start)

/-- Waits within what is left of a budget. -/
def await (service : Service τ ω) (start : τ) (budget : Budget τ) (wait : τ → Wait τ) :
    Run τ ω InstanceStatus := do
  let rest ← service.remaining start budget
  (wait rest).perform service.surroundings service.horizon

/-- Makes a mutation and then waits, counting from the same moment. -/
def mutate (service : Service τ ω) (action : Action τ) (call : RemoteCall)
    (await : τ → Run τ ω InstanceStatus) : Run τ ω InstanceStatus := do
  let start ← Run.now service.surroundings
  discard (action.perform service.surroundings (Run.remote service.surroundings call))
  await start

/-! ### Reading -/

def readAction (instanceId : Value) (budget : Budget τ) : Action τ :=
  { kind := .read, budget, instanceId, clientToken := none }

/-- The observed state of an instance, `none` when it does not exist any more. -/
def read (service : Service τ ω) (instanceId : Value) : Run τ ω (Option InstanceHandle) := do
  let budget ← Run.ofExcept (service.timeouts.budget .read none)
  let detail ← (readAction instanceId budget).perform service.surroundings
    (Run.remote service.surroundings (.getInstanceDetail instanceId))
  match detail with
  | .null =>
      Run.log (info ("SCS instance " ++ instanceId.shown ++ " no longer exists") [])
      return none
  | detail => some <$> Run.ofExcept (InstanceHandle.ofDetail instanceId detail)

/-- As `read`, where an instance that does not exist is a fault of the given operation. -/
def readExisting (service : Service τ ω) (instanceId : Value) (kind : OperationKind) :
    Run τ ω InstanceHandle := do
  match ← service.read instanceId with
  | some handle => return handle
  | none => Run.fail (.instanceNotFound instanceId (some kind.word) none)

/-- The observed state of an instance that is taken over.  Nothing is changed. -/
def adopt (service : Service τ ω) (instanceId : Value) : Run τ ω InstanceHandle :=
  service.readExisting instanceId .read

/-! ### Creating -/

def createdWait (instanceId : Value) (budget : Budget τ) (timeout : τ) : Wait τ :=
  .under budget instanceId InstanceStatus.badForCreate InstanceStatus.runningOnly (some .create) none
    none (some timeout)

def createAction (budget : Budget τ) (clientToken : String) : Action τ :=
  { kind := .create, budget, instanceId := .null, clientToken := some clientToken }

def createAndWait (service : Service τ ω) (spec : DesiredSpec) (budget : Budget τ)
    (clientToken : String) (start : τ) : Run τ ω (Value × InstanceHandle) := do
  let instanceId ← (createAction budget clientToken).perform service.surroundings
    (Run.remote service.surroundings (.createInstance spec.createArgs clientToken))
  unless instanceId.isGiven do
    Run.fail (.remoteOperation "Create returned no instance id" (some OperationKind.create.word)
      .null none)
  Run.claiming instanceId do
    announce .create instanceId clientToken budget
    discard (service.await start budget (createdWait instanceId budget))
  return (instanceId, ← service.readExisting instanceId .create)

def create (service : Service τ ω) (spec : DesiredSpec) (timeout : Option τ) :
    Run τ ω InstanceHandle := do
  let budget ← Run.ofExcept (service.timeouts.budget .create timeout)
  let clientToken ← Run.draw service.surroundings
  Run.log (info ("Starting creation of SCS instance '" ++ spec.instanceName ++ "'") [])
  Run.audit { instanceId := .null, event := "create_start",
              details := .fields [("instance_name", .text spec.instanceName),
                ("cluster_type", .text spec.clusterType.word),
                ("client_token", .text clientToken)] }
  let start ← Run.now service.surroundings
  let (instanceId, handle) ← Run.onKnownFault
    (service.createAndWait spec budget clientToken start) fun fault =>
      Run.audit { instanceId := (fault.detail? "instance_id").getD .null, event := "create_failed",
                  details := .fields [("error", .text fault.text)], failed := true }
  Run.audit { instanceId, event := "create_success",
              details := .fields [("status", .text handle.status.word)] }
  Run.log (info ("Successfully created SCS instance " ++ instanceId.shown) [])
  return handle

/-! ### Updating -/

def callOf (step : Step) (clientToken : String) : Except Fault RemoteCall :=
  let instanceId := Value.text step.instanceId
  match step.kind with
  | .rename => (step.param "instance_name").map fun name =>
      .updateInstanceName instanceId name clientToken
  | .resizeNodeType => (step.param "node_type").map (.resizeNodeType instanceId)
  | .resizeShardNum => (step.param "shard_num").map (.resizeShardNum instanceId)
  | kind => .error (.plain .value [.text ("Unsupported reconcile step: " ++ kind.word)])

/-- A step is waited for until it shows.  Right after its call the instance may still be running
with the old values; only a detail that shows the change ends the wait. -/
def appliedWait (step : Step) (check : AppliedCheck) (budget : Budget τ) (timeout : τ) : Wait τ :=
  .under budget (.text step.instanceId) InstanceStatus.badForUpdate InstanceStatus.runningOnly
    (some step.kind) none (some check.holds) (some timeout)

def awaitApplied (service : Service τ ω) (step : Step) (start : τ) (budget : Budget τ) :
    Run τ ω InstanceStatus := do
  let check ← Run.ofExcept step.appliedCheck
  service.await start budget (appliedWait step check budget)

def stepAction (step : Step) (budget : Budget τ) (clientToken : String) : Action τ :=
  { kind := step.kind, budget, instanceId := .text step.instanceId
    clientToken := some clientToken }

/-- Runs one step and waits until it shows.  The step is pending while it runs, and afterwards the
instance is held with nothing pending. -/
def runStep (service : Service τ ω) (step : Step) (budget : Budget τ) :
    Run τ ω InstanceStatus := do
  let instanceId := Value.text step.instanceId
  let clientToken ← Run.draw service.surroundings
  let call ← Run.ofExcept (callOf step clientToken)
  announce step.kind instanceId clientToken budget
  Run.log (info ("Running step " ++ step.describe ++ " on instance " ++ step.instanceId)
    [("instance_id", instanceId), ("step", .text step.kind.word),
      ("client_token", .text clientToken)])
  Run.followedBy
    (service.mutate (stepAction step budget clientToken) call fun start =>
      service.awaitApplied step start budget)
    fun session => { session with inFlight := session.inFlight.hold instanceId none }

def stepReport (step : Step) (completed : List Step) (details : List (String × Value)) :
    List (String × Value) :=
  Fault.putDetail "rolled_back" (.flag false)
    (Fault.putDetail "completed_steps" (.list (completed.map fun done => .text done.kind.word))
      (Fault.putDetail "step" (.text step.kind.word) details))

def runReported (service : Service τ ω) (step : Step) (budget : Budget τ)
    (completed : List Step) : Run τ ω Unit := do
  let subject := Value.text step.instanceId
  let described := ("step", Value.text step.describe)
  tryCatch (discard (service.runStep step budget)) fun halt => do
    match halt with
    | .fault (.known kind message details cause) =>
        let fault := Fault.known kind message (stepReport step completed details) cause
        Run.audit { instanceId := subject, event := "reconcile_step_failed",
                    details := .fields [described, ("error", .text fault.text)], failed := true }
        Run.fail fault
    | halt => throw halt
  Run.audit { instanceId := subject, event := "reconcile_step_success",
              details := .fields [described] }

/-- Runs steps one after another, each within a budget of its own. -/
def runSteps (service : Service τ ω) (completed : List Step) :
    List (Step × Budget τ) → Run τ ω Unit
  | [] => pure ()
  | (step, budget) :: rest => do
      service.runReported step budget completed
      service.runSteps (completed ++ [step]) rest

def budgets (service : Service τ ω) (timeout : Option τ) :
    List Step → Except Fault (List (Step × Budget τ))
  | [] => .ok []
  | step :: rest => do
      let budget ← service.timeouts.budget step.kind timeout
      return (step, budget) :: (← service.budgets timeout rest)

/-- Applies the steps that bring an instance to a desired configuration.  Each step has the whole
timeout for its call and its wait. -/
def reconcile (service : Service τ ω) (handle : InstanceHandle) (spec : DesiredSpec)
    (timeout : Option τ) : Run τ ω Reconciled := do
  let instanceId := Value.text handle.instanceId
  let steps ← Run.ofExcept (Plan.steps handle spec)
  if steps.isEmpty then
    Run.log (info ("SCS instance " ++ handle.instanceId ++ " already matches the desired spec") [])
    return .unchanged handle
  let budgeted ← Run.ofExcept (service.budgets timeout steps)
  Run.audit { instanceId, event := "reconcile_start",
              details := .fields [("steps", .list (steps.map fun step => .text step.describe))] }
  Run.claiming instanceId (service.runSteps [] budgeted)
  let updated ← service.readExisting instanceId .read
  Run.audit { instanceId, event := "reconcile_success",
              details := .fields [("status", .text updated.status.word)] }
  return .updated updated

/-! ### Deleting -/

def goneWait (instanceId : Value) (budget : Budget τ) (timeout : τ) : Wait τ :=
  .under budget instanceId [] InstanceStatus.gone (some .delete) none none (some timeout)

def deleteAction (instanceId : Value) (budget : Budget τ) (clientToken : String) : Action τ :=
  { kind := .delete, budget, instanceId, clientToken := some clientToken }

def deleteAndWait (service : Service τ ω) (instanceId : Value) (budget : Budget τ)
    (clientToken : String) : Run τ ω InstanceStatus :=
  Run.claiming instanceId do
    announce .delete instanceId clientToken budget
    service.mutate (deleteAction instanceId budget clientToken)
      (.deleteInstance instanceId clientToken) fun start =>
        service.await start budget (goneWait instanceId budget)

/-- Releases an instance.  One that is gone or being released already counts as done. -/
def delete (service : Service τ ω) (instanceId : Value) (timeout : Option τ) :
    Run τ ω InstanceStatus := do
  let budget ← Run.ofExcept (service.timeouts.budget .delete timeout)
  let clientToken ← Run.draw service.surroundings
  Run.audit { instanceId, event := "delete_start",
              details := .fields [("client_token", .text clientToken)] }
  let status ← Run.onKnownFault (service.deleteAndWait instanceId budget clientToken) fun fault =>
    Run.audit { instanceId, event := "delete_failed",
                details := .fields [("error", .text fault.text)], failed := true }
  Run.audit { instanceId, event := "delete_success",
              details := .fields [("status", .text status.word)] }
  Run.log (info ("SCS instance " ++ instanceId.shown ++ " released with final status " ++
    status.word) [])
  return status

end Service

end CacheSteward
