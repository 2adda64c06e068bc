import CacheSteward.Rehearsal.Stage

namespace CacheSteward.Rehearsal

/-! Running the operations of a rehearsal and reporting what could be seen of them. -/

structure Setting where
  timeouts : Timeouts Amount
  horizon : Nat

abbrev Acting (α : Type) := Run Amount Stage α

def keeping (handle : InstanceHandle) : Acting InstanceHandle := do
  modify fun session => { session with world := session.world.keep handle }
  return handle

def changeStage (change : Stage → Stage) : Acting Outcome := do
  modify fun session => { session with world := change session.world }
  return .nothing

/-- One operation on a service.  `inner` runs the operations inside a claim. -/
def operate (service : Service Amount Stage) (inner : Operation → StateM Rehearsed Report) :
    Operation → Acting Outcome
  | .create desired timeout => do
      let spec ← Run.ofExcept (DesiredSpec.ofConfig desired)
      return .handle (← keeping (← service.create spec timeout))
  | .read instanceId => do
      match ← service.read instanceId with
      | some handle => return .handle (← keeping handle)
      | none => return .absent
  | .adopt instanceId => do
      return .handle (← keeping (← service.adopt instanceId))
  | .reconcile instanceId desired detail timeout => do
      let handle? ← (match detail with
        | some detail => some <$> Run.ofExcept (InstanceHandle.ofDetail instanceId detail)
        | none => do
            return (← get).world.kept.lookup instanceId.shown)
      match handle? with
      | none => return .noHandle
      | some handle =>
          let spec ← Run.ofExcept (DesiredSpec.ofConfig desired)
          let result ← service.reconcile handle spec timeout
          discard (keeping result.handle)
          return .reconciled result
  | .delete instanceId timeout => do
      return .status (← service.delete instanceId timeout)
  | .pending instanceId => do
      return .pending ((← get).inFlight.pending? instanceId)
  | .runStep step timeout interval => do
      let step ← Run.ofExcept step
      let budget ← Run.ofExcept (Budget.make timeout interval)
      return .status (← service.runStep step budget)
  | .claim instanceId operations =>
      Run.claiming instanceId do
        return .reports (← operations.mapM fun operation => inner operation)
  | .patch instanceId entries => changeStage fun stage => stage.patch instanceId entries
  | .drop instanceId => changeStage fun stage => stage.drop instanceId
  | .extend script => changeStage fun stage =>
      { stage with script := stage.script.append script }

def logsOf (events : List (Event Amount)) : List LogRecord :=
  events.filterMap fun
    | .logged record => some record
    | _ => none

def act (setting : Setting) (inner : Operation → StateM Rehearsed Report)
    (operation : Operation) : StateM Rehearsed Report := do
  let before ← get
  let nested (operations : List Operation) : StateM Rehearsed Unit :=
    operations.forM fun operation => do
      let report ← inner operation
      modify fun session =>
        { session with
          world := { session.world with reports := session.world.reports ++ [report] } }
  let service : Service Amount Stage :=
    { surroundings := surroundings nested, timeouts := setting.timeouts
      horizon := setting.horizon }
  let result ← (operate service inner operation).run
  modifyGet fun after =>
    let events := (after.history.take (after.history.length - before.history.length)).reverse
    let logs := logsOf after.events
    (.mk result events after.world.clock (after.inFlight.map (·.instanceId))
      (after.world.reports.drop before.world.reports.length) (logs.drop after.world.reported),
      { after with world := { after.world with reported := logs.length } })

def Report.missing : Report := .mk (.error .unfinished) [] (.whole 0) [] [] []

/-- Runs an operation where operations may run inside each other to a depth. -/
def runWithin (setting : Setting) : Nat → Operation → StateM Rehearsed Report
  | 0 => act setting fun _ => pure .missing
  | depth + 1 => act setting (runWithin setting depth)

/-- Runs operations one after another.  No operation can lie deeper than there are claims and
cues. -/
def rehearse (setting : Setting) (stage : Stage) (operations : List Operation) : List Report :=
  let depth := nestingOfAll operations + nestingOfScript stage.script
  let session : Rehearsed := { world := stage }
  ((operations.mapM (runWithin setting depth)).run session).1

end CacheSteward.Rehearsal
