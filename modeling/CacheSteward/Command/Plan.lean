import CacheSteward.Command.Grid
import CacheSteward.Command.Outcome
import CacheSteward.Plan

namespace CacheSteward.Command

/-! Showing the steps that would bring an instance to a desired configuration. -/

inductive PlanFormat where
  | table
  | json
deriving Repr, DecidableEq

namespace PlanFormat

def word : PlanFormat → String
  | .table => "table"
  | .json => "json"

def all : List PlanFormat := [.table, .json]

def ofWord? (s : String) : Option PlanFormat := all.find? (·.word == s)

end PlanFormat

structure PlannedChange where
  handle : InstanceHandle
  steps : List Step

namespace PlannedChange

/-- Plans for two documents.  The desired one is judged before the observed one is looked at. -/
def ofDocuments (desired observed : Except Fault Value) : Except Fault PlannedChange := do
  let spec ← DesiredSpec.ofConfig (← desired)
  let detail ← observed
  let handle ← InstanceHandle.ofDetail ((detail.get? "instanceId").getD (.text "")) detail
  let steps ← Plan.steps handle spec
  return ⟨handle, steps⟩

def document (plan : PlannedChange) : Value :=
  .fields [("instance_id", .text plan.handle.instanceId),
    ("steps", .list (plan.steps.map fun step =>
      .fields [("kind", .text step.kind.word), ("params", .fields step.params)]))]

def rows (plan : PlannedChange) : List (List String) :=
  plan.steps.mapIdx fun n step =>
    [toString (n + 1), step.kind.word, Step.changes step.params]

def table (plan : PlannedChange) : String :=
  grid [("#", .right), ("Step", .left), ("Change", .left)] plan.rows

def text (desiredName : String) (plan : PlannedChange) : String :=
  if plan.steps.isEmpty then
    "✅ Instance " ++ plan.handle.instanceId ++ " already matches " ++ desiredName ++ "\n"
  else
    "Plan for instance " ++ plan.handle.instanceId ++ " (" ++ plan.handle.clusterType.word ++
      "):\n" ++ plan.table ++ "\n"

end PlannedChange

def planFailure (format : PlanFormat) (fault : Fault) : Outcome :=
  match format with
  | .table => .aborted ("❌ Failed to plan: " ++ fault.text)
  | .json => jsonOr .aborted fault.report

def plan (format : PlanFormat) (desiredName : String) (desired observed : Except Fault Value) :
    Outcome :=
  match PlannedChange.ofDocuments desired observed with
  | .error fault => outcomeOf (planFailure format) fault
  | .ok plan =>
      match format with
      | .table => .success (plan.text desiredName)
      | .json => jsonOr (fun text => .success (text ++ "\n")) plan.document

end CacheSteward.Command
