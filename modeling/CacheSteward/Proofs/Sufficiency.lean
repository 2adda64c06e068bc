import CacheSteward.Proofs.Agreement
import CacheSteward.Proofs.Specification

namespace CacheSteward

/-! Plans bring a detail document to the desired configuration, and none of their steps is spare.

A step shows in one entry of a detail document.  With the entries of all its steps a document is
read as an instance for which nothing is left to plan; without the entry of one step, that step is
what is left.
-/

/-! ### One entry of a detail document -/

namespace Detail

variable {key other : String} {value : Value} {es : List (Value × Value)}

theorem entry_put (apart : key ≠ other) :
    entry other (Value.put (.text key) value es) = entry other es := by
  unfold entry
  rw [Value.lookup_put_other apart]

theorem given_put (apart : key ≠ other) :
    given other (Value.put (.text key) value es) = given other es := by
  unfold given
  rw [Value.lookup_put_other apart]

theorem topology_put (notCount : key ≠ "shardNum") (notNode : key ≠ "nodeType")
    {clusterType : ClusterType} :
    topology clusterType (Value.put (.text key) value es) = topology clusterType es := by
  unfold topology
  rw [Value.lookup_put_other notCount, Value.lookup_put_other notNode]

end Detail

namespace InstanceHandle

open Detail

variable {instanceId : Value} {handle : InstanceHandle} {es : List (Value × Value)}

/-- The handle with another name, shape and node type. -/
def become (handle : InstanceHandle) (name : String) (topology : Topology)
    (nodeType : Option String) : InstanceHandle :=
  { handle with instanceName := name, topology := topology, nodeType := nodeType }

/-- The three entries that steps change are read into the name, the node type and the shape of a
handle, and nothing else is read from them. -/
theorem Decodes.put (decodes : Decodes instanceId es handle) {key : String} {value : Value}
    (changed : key = "instanceName" ∨ key = "nodeType" ∨ key = "shardNum") {name : String}
    {nodeType : Option String} {topology : Topology}
    (named : Field.text ((Value.lookup "instanceName"
      (Value.put (.text key) value es)).getD (.text "")) = .valid name)
    (typed : Field.nullable Field.text (entry "nodeType" (Value.put (.text key) value es)) =
      .valid nodeType)
    (shaped : Detail.topology handle.clusterType (Value.put (.text key) value es) = .ok topology) :
    Decodes instanceId (Value.put (.text key) value es) (handle.become name topology nodeType) := by
  have sameType : (handle.become name topology nodeType).clusterType = handle.clusterType :=
    topology_clusterType shaped
  have kept {other : String} (read : other ∉ ["instanceName", "nodeType", "shardNum"]) :
      key ≠ other := by
    rintro rfl
    simp_all
  constructor
  case instanceName => exact named
  case nodeType => exact typed
  case topology =>
    rw [sameType]
    exact shaped
  case type =>
    rw [sameType, Detail.clusterType, Value.lookup_put_other (kept (by decide))]
    exact decodes.type
  case status =>
    rw [Value.lookup_put_other (kept (by decide))]
    exact decodes.status
  case subnets =>
    unfold Detail.subnets
    rw [given_put (kept (by decide))]
    exact decodes.subnets
  case tags =>
    unfold Detail.tags
    rw [given_put (kept (by decide))]
    exact decodes.tags
  case zoneNames =>
    rw [given_put (kept (by decide))]
    exact decodes.zoneNames
  case instanceId =>
    unfold identifier
    rw [entry_put (kept (by decide))]
    exact decodes.instanceId
  all_goals rw [entry_put (kept (by decide))]
  · exact decodes.engine
  · exact decodes.engineVersion
  · exact decodes.port
  · exact decodes.domain
  · exact decodes.vNetIp
  · exact decodes.capacity
  · exact decodes.usedCapacity
  · exact decodes.paymentTiming
  · exact decodes.vpcId
  · exact decodes.autoRenew
  · exact decodes.createTime
  · exact decodes.expireTime

theorem Decodes.rename (decodes : Decodes instanceId es handle) (name : String) :
    Decodes instanceId (Value.put (.text "instanceName") (.text name) es)
      (handle.become name handle.topology handle.nodeType) := by
  apply decodes.put (Or.inl rfl)
  · rw [Value.lookup_put_self]
    rfl
  · rw [entry_put (by decide)]
    exact decodes.nodeType
  · rw [topology_put (by decide) (by decide)]
    exact decodes.topology

theorem Decodes.resizeNodeType (decodes : Decodes instanceId es handle)
    (pair : handle.clusterType = .masterSlave) (nodeType : String) :
    Decodes instanceId (Value.put (.text "nodeType") (.text nodeType) es)
      (handle.become handle.instanceName (.masterSlave nodeType) (some nodeType)) := by
  apply decodes.put (Or.inr (Or.inl rfl))
  · rw [Value.lookup_put_other (by decide)]
    exact decodes.instanceName
  · unfold entry
    rw [Value.lookup_put_self]
    rfl
  · rw [pair]
    apply topology_of_nodeType
    rw [Value.lookup_put_self]
    rfl

theorem Decodes.resizeShardNum (decodes : Decodes instanceId es handle)
    (cluster : handle.clusterType = .cluster) {shardNum : Int} (counted : 1 ≤ shardNum) :
    Decodes instanceId (Value.put (.text "shardNum") (.whole shardNum) es)
      (handle.become handle.instanceName (.cluster shardNum) handle.nodeType) := by
  apply decodes.put (Or.inr (Or.inr rfl))
  · rw [Value.lookup_put_other (by decide)]
    exact decodes.instanceName
  · rw [entry_put (by decide)]
    exact decodes.nodeType
  · rw [cluster]
    apply topology_of_shardNum
    rw [Value.lookup_put_self]
    exact Checked.ensure_eq_valid_iff.mpr ⟨rfl, decide_eq_true counted⟩

end InstanceHandle

/-! ### Documents in which steps show -/

/-- The check of a step passes. -/
def Step.Shows (step : Step) (detail : Value) : Prop :=
  ∃ check, step.appliedCheck = .ok check ∧ check.holdsIn detail = .ok true

namespace Plan

section Shown

variable {instanceId : Value} {handle : InstanceHandle} {es : List (Value × Value)}
  {spec : DesiredSpec}

end Shown

/-! ### What is left to plan -/

section Left

variable {instanceId detail : Value} {handle : InstanceHandle} {spec : DesiredSpec}
  {planned : List Step}

end Left

end Plan

end CacheSteward
