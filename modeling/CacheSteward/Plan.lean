import CacheSteward.Instance.Detail
import CacheSteward.Plan.Step
import CacheSteward.Spec

namespace CacheSteward.Plan

/-! The steps that bring an observed instance to a desired configuration.

What is fixed at creation is judged first.  Of the rest a rename comes before the one resize that
the shape of the instance allows, and only what differs becomes a step.
-/

/-- Why a desired configuration cannot be reached from an observed one. -/
inductive FixedField where
  | clusterType
  | engineVersion
  | port
deriving Repr, DecidableEq

namespace FixedField

def name : FixedField → String
  | .clusterType => "cluster_type"
  | .engineVersion => "engine_version"
  | .port => "port"

def desired (spec : DesiredSpec) : FixedField → Value
  | .clusterType => .text spec.clusterType.word
  | .engineVersion => .text spec.engineVersion.word
  | .port => .whole spec.port

/-- A version or port that was not observed, or observed as empty or zero, conflicts with
nothing. -/
def conflicts (handle : InstanceHandle) (spec : DesiredSpec) : FixedField → Bool
  | .clusterType => spec.clusterType != handle.clusterType
  | .engineVersion =>
      match handle.engineVersion with
      | some version => !version.isEmpty && spec.engineVersion.word != version
      | none => false
  | .port =>
      match handle.port with
      | some observed => observed != 0 && spec.port != observed
      | none => false

def fault (handle : InstanceHandle) (spec : DesiredSpec) (field : FixedField) : Fault :=
  let observed := match field with
    | .clusterType => " is " ++ handle.clusterType.word ++ " and"
    | _ => ""
  .validation (field.name ++ " of instance " ++ handle.instanceId ++ observed ++
    " cannot be changed after creation") (some field.name) (field.desired spec)

end FixedField

def conflict? (handle : InstanceHandle) (spec : DesiredSpec) : Option FixedField :=
  [.clusterType, .engineVersion, .port].find? (FixedField.conflicts handle spec)

def renameSteps (handle : InstanceHandle) (spec : DesiredSpec) : List Step :=
  if spec.instanceName = handle.instanceName then []
  else [⟨.rename, handle.instanceId, [("instance_name", .text spec.instanceName)]⟩]

/-- A pair is resized by its node type and a cluster by its shard count. -/
def resizeSteps (handle : InstanceHandle) (spec : DesiredSpec) : List Step :=
  match handle.topology with
  | .masterSlave nodeType =>
      if spec.nodeType = nodeType then []
      else [⟨.resizeNodeType, handle.instanceId, [("node_type", .text spec.nodeType)]⟩]
  | .cluster shardNum =>
      if spec.shardNum = shardNum then []
      else [⟨.resizeShardNum, handle.instanceId, [("shard_num", .whole spec.shardNum)]⟩]

/-- The steps in the order in which they run. -/
def steps (handle : InstanceHandle) (spec : DesiredSpec) : Except Fault (List Step) :=
  match conflict? handle spec with
  | some field => .error (field.fault handle spec)
  | none => .ok (renameSteps handle spec ++ resizeSteps handle spec)

section Members

variable {handle : InstanceHandle} {spec : DesiredSpec} {planned : List Step} {step : Step}

theorem mem_renameSteps_iff :
    step ∈ renameSteps handle spec ↔ spec.instanceName ≠ handle.instanceName ∧
      step = ⟨.rename, handle.instanceId, [("instance_name", .text spec.instanceName)]⟩ := by
  by_cases same : spec.instanceName = handle.instanceName <;> simp [renameSteps, same]

theorem mem_resizeSteps_iff :
    step ∈ resizeSteps handle spec ↔
      (∃ nodeType, handle.topology = .masterSlave nodeType ∧ spec.nodeType ≠ nodeType ∧
        step = ⟨.resizeNodeType, handle.instanceId, [("node_type", .text spec.nodeType)]⟩) ∨
      ∃ shardNum, handle.topology = .cluster shardNum ∧ spec.shardNum ≠ shardNum ∧
        step = ⟨.resizeShardNum, handle.instanceId, [("shard_num", .whole spec.shardNum)]⟩ := by
  cases shape : handle.topology with
  | masterSlave nodeType =>
      by_cases same : spec.nodeType = nodeType <;> simp [resizeSteps, shape, same]
  | cluster shardNum =>
      by_cases same : spec.shardNum = shardNum <;> simp [resizeSteps, shape, same]

theorem renameSteps_eq_nil_iff :
    renameSteps handle spec = [] ↔ handle.instanceName = spec.instanceName := by
  by_cases same : spec.instanceName = handle.instanceName <;> simp [renameSteps, same, eq_comm]

/-- Beside an instance of its own cluster type, a configuration resizes nothing exactly when the
shapes are equal. -/
theorem resizeSteps_eq_nil_iff (sameType : handle.clusterType = spec.clusterType) :
    resizeSteps handle spec = [] ↔ handle.topology = spec.topology := by
  unfold InstanceHandle.clusterType at sameType
  unfold DesiredSpec.topology resizeSteps
  rw [← sameType]
  cases handle.topology with
  | masterSlave nodeType => simp [Topology.clusterType, eq_comm]
  | cluster shardNum => simp [Topology.clusterType, eq_comm]

theorem steps_eq_ok_iff :
    steps handle spec = .ok planned ↔ conflict? handle spec = none ∧
      planned = renameSteps handle spec ++ resizeSteps handle spec := by
  unfold steps
  cases conflict? handle spec with
  | some field => simp
  | none => simp [eq_comm]

end Members

end CacheSteward.Plan
