import CacheSteward.Plan
import CacheSteward.Proofs.Entries
import CacheSteward.Proofs.Specification

namespace CacheSteward

/-! An instance that is created exactly as requested.

The request of a desired configuration, with a status put in, is read back as a handle that has
everything the configuration asks for, and for which there is nothing to plan.
-/

theorem Subnet.ofWire (subnet : Subnet) : Detail.subnet subnet.wire = .ok subnet := rfl

theorem Detail.subnets_of_wire {subnets : List Subnet} {es : List (Value × Value)}
    (given : Detail.given "subnets" es = .list (subnets.map Subnet.wire)) :
    Detail.subnets es = .ok subnets := by
  have each : ∀ subnets : List Subnet,
      (subnets.map Subnet.wire).mapM Detail.subnet = .ok subnets := by
    intro subnets
    induction subnets with
    | nil => rfl
    | cons head tail ih =>
        rw [List.map_cons, List.mapM_cons, ih, Subnet.ofWire]
        rfl
  unfold Detail.subnets
  rw [given]
  exact each subnets

namespace DesiredSpec

variable (spec : DesiredSpec)

/-- The handle of an instance that is as requested. -/
def created (id : String) (status : InstanceStatus) : InstanceHandle where
  instanceId := id
  instanceName := spec.instanceName
  status := status
  topology := spec.topology
  nodeType := some spec.nodeType
  engine := none
  engineVersion := some spec.engineVersion.word
  port := some spec.port
  domain := none
  vNetIp := none
  capacity := none
  usedCapacity := none
  paymentTiming := none
  zoneNames := []
  vpcId := spec.vpcId.filter fun vpc => !vpc.isEmpty
  subnets := spec.subnets
  autoRenew := none
  tags := []
  createTime := none
  expireTime := none

/-- The entries that every request has. -/
def fixedArgs : List (String × Value) :=
  [("instanceName", .text spec.instanceName), ("nodeType", .text spec.nodeType),
    ("clusterType", .text spec.clusterType.word), ("shardNum", .whole spec.shardNum),
    ("engineVersion", .text spec.engineVersion.word), ("port", .whole spec.port),
    ("proxyNum", .whole spec.proxyNum), ("replicationNum", .whole spec.replicationNum),
    ("purchaseCount", .whole spec.purchaseCount), ("billing", spec.billing.wire)]

def vpcArgs : List (String × Value) :=
  match spec.vpcId with
  | some vpc => if vpc.isEmpty then [] else [("vpcId", .text vpc)]
  | none => []

def subnetArgs : List (String × Value) :=
  if spec.subnets.isEmpty then [] else [("subnets", .list (spec.subnets.map Subnet.wire))]

/-- The request with a status, as the entries of a detail document. -/
def createdEntries (status : InstanceStatus) : List (Value × Value) :=
  Value.put (.text "instanceStatus") (.text status.word)
    ((spec.fixedArgs ++ spec.renewalArgs ++ spec.vpcArgs ++ spec.subnetArgs).map
      fun (k, v) => (.text k, v))

variable {spec} {status : InstanceStatus} {key : String}

theorem createArgs_set_status :
    spec.createArgs.set "instanceStatus" (.text status.word) =
      .mapping (spec.createdEntries status) := rfl

/-! The keys of a request stand apart, so that each is looked up in its own part. -/

def fixedKeys : List String :=
  ["instanceName", "nodeType", "clusterType", "shardNum", "engineVersion", "port", "proxyNum",
    "replicationNum", "purchaseCount", "billing"]

def renewalKeys : List String := ["autoRenewTimeUnit", "autoRenewTime"]

theorem lookup_none_of_keys {entries : List (String × Value)} {keys : List String}
    (within : ∀ entry ∈ entries, entry.1 ∈ keys) (absent : key ∉ keys) :
    entries.lookup key = none := by
  rw [List.lookup_eq_none_iff]
  intro entry listed
  apply bne_iff_ne.mpr
  intro equal
  exact absent (equal ▸ within entry listed)

theorem fixedArgs_keys : ∀ entry ∈ spec.fixedArgs, entry.1 ∈ fixedKeys := by
  simp [fixedArgs, fixedKeys]

theorem renewalArgs_keys : ∀ entry ∈ spec.renewalArgs, entry.1 ∈ renewalKeys := by
  unfold renewalArgs
  split <;> simp [renewalKeys]

theorem vpcArgs_keys : ∀ entry ∈ spec.vpcArgs, entry.1 ∈ ["vpcId"] := by
  unfold vpcArgs
  split
  · split <;> simp
  · simp

theorem subnetArgs_keys : ∀ entry ∈ spec.subnetArgs, entry.1 ∈ ["subnets"] := by
  unfold subnetArgs
  split <;> simp

theorem lookup_vpcArgs :
    spec.vpcArgs.lookup "vpcId" = (spec.vpcId.filter fun vpc => !vpc.isEmpty).map Value.text := by
  unfold vpcArgs
  cases spec.vpcId with
  | none => rfl
  | some vpc => by_cases empty : vpc.isEmpty = true <;> simp [empty, Option.filter]

/-- What a request says under a key. -/
theorem get?_createArgs :
    spec.createArgs.get? key =
      (((spec.fixedArgs.lookup key).or (spec.renewalArgs.lookup key)).or
        (spec.vpcArgs.lookup key)).or (spec.subnetArgs.lookup key) := by
  change Value.lookup key
    ((spec.fixedArgs ++ spec.renewalArgs ++ spec.vpcArgs ++ spec.subnetArgs).map
      fun (k, v) => (.text k, v)) = _
  rw [Value.lookup_fields]
  simp only [List.lookup_append]

theorem get?_createArgs_fixed (key : String) {v : Value}
    (listed : spec.fixedArgs.lookup key = some v) : spec.createArgs.get? key = some v := by
  rw [get?_createArgs, listed]
  rfl

theorem get?_createArgs_renewal (key : String) (listed : key ∈ renewalKeys) :
    spec.createArgs.get? key = spec.renewalArgs.lookup key := by
  have apart : key ∉ fixedKeys ∧ key ∉ ["vpcId"] ∧ key ∉ ["subnets"] := by
    revert key
    decide
  rw [get?_createArgs, lookup_none_of_keys fixedArgs_keys apart.1,
    lookup_none_of_keys vpcArgs_keys apart.2.1, lookup_none_of_keys subnetArgs_keys apart.2.2,
    Option.or_none, Option.or_none]
  rfl

theorem get?_createArgs_vpcId :
    spec.createArgs.get? "vpcId" = (spec.vpcId.filter fun vpc => !vpc.isEmpty).map Value.text := by
  rw [get?_createArgs, lookup_none_of_keys fixedArgs_keys (by decide),
    lookup_none_of_keys renewalArgs_keys (by decide), lookup_vpcArgs,
    lookup_none_of_keys subnetArgs_keys (by decide), Option.or_none]
  rfl

theorem get?_createArgs_subnets :
    spec.createArgs.get? "subnets" = spec.subnetArgs.lookup "subnets" := by
  rw [get?_createArgs, lookup_none_of_keys fixedArgs_keys (by decide),
    lookup_none_of_keys renewalArgs_keys (by decide), lookup_none_of_keys vpcArgs_keys (by decide)]
  rfl

/-- The status apart, the entries are those of the request. -/
theorem lookup_createdEntries (notStatus : "instanceStatus" ≠ key) :
    Value.lookup key (spec.createdEntries status) = spec.createArgs.get? key := by
  unfold createdEntries
  rw [Value.lookup_put_other notStatus]
  rfl

theorem lookup_createdEntries_fixed (key : String) {v : Value}
    (listed : spec.fixedArgs.lookup key = some v) :
    Value.lookup key (spec.createdEntries status) = some v := by
  have notStatus : "instanceStatus" ≠ key := by
    intro equal
    subst equal
    cases listed
  rw [lookup_createdEntries notStatus, get?_createArgs_fixed key listed]

/-- Nothing else stands in a request. -/
theorem lookup_createdEntries_none
    (absent : key ∉ "instanceStatus" :: (fixedKeys ++ renewalKeys ++ ["vpcId"] ++ ["subnets"])) :
    Value.lookup key (spec.createdEntries status) = none := by
  simp only [List.mem_cons, List.mem_append, not_or] at absent
  obtain ⟨notStatus, ⟨⟨notFixed, notRenewal⟩, notVpc⟩, notSubnets⟩ := absent
  rw [lookup_createdEntries (Ne.symm notStatus), get?_createArgs,
    lookup_none_of_keys fixedArgs_keys notFixed, lookup_none_of_keys renewalArgs_keys notRenewal,
    lookup_none_of_keys vpcArgs_keys (by simpa using notVpc),
    lookup_none_of_keys subnetArgs_keys (by simpa using notSubnets)]
  rfl

theorem given_createdEntries_subnets :
    Detail.given "subnets" (spec.createdEntries status) = .list (spec.subnets.map Subnet.wire) := by
  unfold Detail.given
  rw [lookup_createdEntries (by decide), get?_createArgs_subnets, subnetArgs]
  cases spec.subnets with
  | nil => rfl
  | cons head tail => rfl

theorem created_clusterType (id : String) :
    (spec.created id status).clusterType = spec.clusterType := topology_clusterType

theorem created_topology (id : String) (counted : 1 ≤ spec.shardNum) :
    Detail.topology (spec.created id status).clusterType (spec.createdEntries status) =
      .ok spec.topology := by
  rw [created_clusterType]
  unfold topology
  cases spec.clusterType with
  | cluster =>
      apply Detail.topology_of_shardNum
      rw [lookup_createdEntries_fixed "shardNum" rfl]
      exact Checked.ensure_eq_valid_iff.mpr ⟨rfl, decide_eq_true counted⟩
  | masterSlave =>
      apply Detail.topology_of_nodeType
      rw [lookup_createdEntries_fixed "nodeType" rfl]
      rfl

/-- Each field of the handle comes out of the request. -/
theorem created_decodes (id : String) (status : InstanceStatus) (counted : 1 ≤ spec.shardNum) :
    InstanceHandle.Decodes (.text id) (spec.createdEntries status) (spec.created id status) := by
  have fixed {key : String} {v : Value} (listed : spec.fixedArgs.lookup key = some v) :
      Detail.entry key (spec.createdEntries status) = v := by
    rw [Detail.entry, lookup_createdEntries_fixed _ listed]
    rfl
  have absent {key : String} (absent : key ∉ "instanceStatus" ::
      (fixedKeys ++ renewalKeys ++ ["vpcId"] ++ ["subnets"])) :
      Detail.entry key (spec.createdEntries status) = .null := by
    rw [Detail.entry, lookup_createdEntries_none absent]
    rfl
  constructor
  case status => exact Value.lookup_put_self
  case type =>
    rw [created_clusterType, Detail.clusterType, lookup_createdEntries_fixed "clusterType" rfl]
    cases spec.clusterType <;> rfl
  case topology => exact created_topology id counted
  case subnets => exact Detail.subnets_of_wire given_createdEntries_subnets
  case tags =>
    refine ⟨[], ?_, rfl⟩
    rw [Detail.tags, Detail.given, lookup_createdEntries_none (by decide)]
    rfl
  case instanceId =>
    rw [Detail.identifier, absent (by decide)]
    rfl
  case instanceName =>
    rw [lookup_createdEntries_fixed "instanceName" rfl]
    rfl
  case nodeType => rw [fixed rfl]; rfl
  case engineVersion => rw [fixed rfl]; rfl
  case port => rw [fixed rfl]; rfl
  case vpcId =>
    rw [Detail.entry, lookup_createdEntries (by decide), get?_createArgs_vpcId, created]
    cases spec.vpcId.filter fun vpc => !vpc.isEmpty <;> rfl
  case zoneNames =>
    rw [Detail.given, lookup_createdEntries_none (by decide)]
    rfl
  all_goals
    rw [absent (by decide)]
    rfl

/-- An instance that is as requested has everything the configuration asks for. -/
theorem steps_created (id : String) : Plan.steps (spec.created id status) spec = .ok [] := by
  apply Plan.steps_eq_ok_iff.mpr
  have noConflict : ∀ field,
      Plan.FixedField.conflicts (spec.created id status) spec field = false := by
    intro field
    cases field with
    | clusterType => simp [Plan.FixedField.conflicts, created_clusterType]
    | engineVersion | port => simp [Plan.FixedField.conflicts, created]
  have named := Plan.renameSteps_eq_nil_iff.mpr (rfl : (spec.created id status).instanceName = _)
  have shaped := (Plan.resizeSteps_eq_nil_iff (created_clusterType id)).mpr
    (rfl : (spec.created id status).topology = _)
  constructor
  · unfold Plan.conflict?
    simp [noConflict]
  · rw [named, shaped]
    rfl

/-- The request of every accepted configuration, under every status, is read back as an instance
that is as requested: an update has nothing to do. -/
theorem created_as_requested {data : Value} (accepted : ofConfig data = .ok spec) (id : String)
    (status : InstanceStatus) :
    ∃ handle, InstanceHandle.ofDetail (.text id)
        (spec.createArgs.set "instanceStatus" (.text status.word)) = .ok handle ∧
      handle.instanceId = id ∧ handle.status = status ∧ handle.topology = spec.topology ∧
      handle.instanceName = spec.instanceName ∧ handle.nodeType = some spec.nodeType ∧
      handle.engineVersion = some spec.engineVersion.word ∧ handle.port = some spec.port ∧
      handle.subnets = spec.subnets ∧
      handle.vpcId = (spec.vpcId.filter fun vpc => !vpc.isEmpty) ∧
      Plan.steps handle spec = .ok [] := by
  obtain ⟨es, _, read⟩ := ofConfig_ok accepted
  have decodes := created_decodes id status read.one_le_shardNum
  rw [createArgs_set_status]
  exact ⟨spec.created id status, InstanceHandle.ofDetail_eq_ok_iff.mpr decodes, rfl, rfl, rfl, rfl,
    rfl, rfl, rfl, rfl, rfl, steps_created id⟩

/-- A cluster in a network of its own, on two subnets. -/
def placedCluster : Value :=
  .fields [("instance_name", .text "shop"), ("node_type", .text "small"),
    ("cluster_type", .text "cluster"), ("shard_num", .whole 4), ("vpc_id", .text "vpc-1"),
    ("subnets", .list [.fields [("subnet_id", .text "sbn-1"), ("zone_name", .text "zoneA")],
      .fields [("subnet_id", .text "sbn-2"), ("zone_name", .text "zoneB")]])]

theorem created_as_requested_placedCluster :
    ∃ spec handle, ofConfig placedCluster = .ok spec ∧
      InstanceHandle.ofDetail (.text "scs-1")
        (spec.createArgs.set "instanceStatus" (.text "Creating")) = .ok handle ∧
      handle.topology = .cluster 4 ∧ handle.vpcId = some "vpc-1" ∧
      Plan.steps handle spec = .ok [] := by
  obtain ⟨handle, read, -, -, topology, -, -, -, -, -, vpcId, planned⟩ :=
    created_as_requested (rfl : ofConfig placedCluster = .ok _) "scs-1" .creating
  exact ⟨_, handle, rfl, read, topology, vpcId, planned⟩

end DesiredSpec

end CacheSteward
