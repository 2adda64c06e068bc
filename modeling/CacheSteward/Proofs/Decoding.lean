import CacheSteward.Proofs.Malformed

namespace CacheSteward

/-! What a handle that was read from a detail document says about the document.

A handle comes out of a document exactly when each of its fields comes out of the entries that
belong to it.  So what follows from a change of one entry can be said without going through the
decoder again.
-/

theorem Field.required_eq_valid_iff {α : Type} {name : String} {read : Value → Checked α}
    {es : List (Value × Value)} {a : α} :
    Field.required name read es = .valid a ↔
      ∃ v, Value.lookup name es = some v ∧ read v = .valid a := by
  unfold Field.required
  rw [Checked.under_eq_valid_iff]
  cases Value.lookup name es with
  | none => exact ⟨nofun, fun found => by obtain ⟨_, missing, _⟩ := found; cases missing⟩
  | some v => simp

namespace Detail

variable {es : List (Value × Value)} {topology : Topology}

theorem checked_eq_ok_iff {α : Type} {record : String} {a : Checked α} {x : α} :
    checked record a = .ok x ↔ a = .valid x := by
  cases a <;> simp [checked]

theorem topology_cluster (read : Detail.topology .cluster es = .ok topology) :
    ∃ shardNum, Field.wholeAtLeast 1 ((Value.lookup "shardNum" es).getD (.whole 1)) =
      .valid shardNum ∧ topology = .cluster shardNum := by
  have formed := checked_eq_ok_iff.mp read
  obtain ⟨_, shardNum, typed, given, rfl⟩ := Checked.seq_valid formed
  obtain ⟨_, _, rfl⟩ := Checked.map_valid typed
  obtain ⟨v, found, valid⟩ := Field.required_eq_valid_iff.mp given
  cases found
  exact ⟨shardNum, valid, rfl⟩

theorem topology_masterSlave (read : Detail.topology .masterSlave es = .ok topology) :
    ∃ nodeType, Field.text ((Value.lookup "nodeType" es).getD (.text "")) = .valid nodeType ∧
      topology = .masterSlave nodeType := by
  have formed := checked_eq_ok_iff.mp read
  obtain ⟨_, nodeType, typed, given, rfl⟩ := Checked.seq_valid formed
  obtain ⟨_, _, rfl⟩ := Checked.map_valid typed
  obtain ⟨v, found, valid⟩ := Field.required_eq_valid_iff.mp given
  cases found
  exact ⟨nodeType, valid, rfl⟩

theorem topology_of_shardNum {shardNum : Int}
    (read : Field.wholeAtLeast 1 ((Value.lookup "shardNum" es).getD (.whole 1)) =
      .valid shardNum) : Detail.topology .cluster es = .ok (.cluster shardNum) := by
  apply checked_eq_ok_iff.mpr
  have given : Field.required "shard_num" (Field.wholeAtLeast 1)
      [(.text "shard_num", (Value.lookup "shardNum" es).getD (.whole 1))] = .valid shardNum :=
    Field.required_eq_valid_iff.mpr ⟨_, rfl, read⟩
  unfold Topology.clusterOfEntries
  rw [given]
  rfl

theorem topology_of_nodeType {nodeType : String}
    (read : Field.text ((Value.lookup "nodeType" es).getD (.text "")) = .valid nodeType) :
    Detail.topology .masterSlave es = .ok (.masterSlave nodeType) := by
  apply checked_eq_ok_iff.mpr
  have given : Field.required "node_type" Field.text
      [(.text "node_type", (Value.lookup "nodeType" es).getD (.text ""))] = .valid nodeType :=
    Field.required_eq_valid_iff.mpr ⟨_, rfl, read⟩
  unfold Topology.masterSlaveOfEntries
  rw [given]
  rfl

theorem topology_clusterType {clusterType : ClusterType}
    (read : Detail.topology clusterType es = .ok topology) :
    topology.clusterType = clusterType := by
  cases clusterType with
  | cluster =>
      obtain ⟨_, _, rfl⟩ := topology_cluster read
      rfl
  | masterSlave =>
      obtain ⟨_, _, rfl⟩ := topology_masterSlave read
      rfl

/-! ### The fields of a handle -/

def entry (key : String) (es : List (Value × Value)) : Value := (Value.lookup key es).getD .null

/-- The identifier in the document, if there is one, before the one that was asked for. -/
def identifier (instanceId : Value) (es : List (Value × Value)) : Value :=
  if (entry "instanceId" es).isGiven then entry "instanceId" es else instanceId

def subnets (es : List (Value × Value)) : Except Fault (List Subnet) := do
  (← items (given "subnets" es)).mapM subnet

def tags (es : List (Value × Value)) : Except Fault (List (Value × Value)) := do
  (← items (given "tags" es)).foldlM addTag []

end Detail

namespace InstanceHandle

open Detail

variable {instanceId : Value} {handle : InstanceHandle} {es : List (Value × Value)}

/-- Every field of the handle is what the document says of it. -/
structure Decodes (instanceId : Value) (es : List (Value × Value)) (handle : InstanceHandle) :
    Prop where
  status : Value.lookup "instanceStatus" es = some (.text handle.status.word)
  type : Detail.clusterType es = .ok handle.clusterType
  topology : Detail.topology handle.clusterType es = .ok handle.topology
  subnets : Detail.subnets es = .ok handle.subnets
  tags : ∃ tags, Detail.tags es = .ok tags ∧ Field.textEntries (.mapping tags) = .valid handle.tags
  instanceId : Field.text (identifier instanceId es) = .valid handle.instanceId
  instanceName : Field.text ((Value.lookup "instanceName" es).getD (.text "")) =
    .valid handle.instanceName
  nodeType : Field.nullable Field.text (entry "nodeType" es) = .valid handle.nodeType
  engine : Field.nullable Field.text (entry "engine" es) = .valid handle.engine
  engineVersion : Field.nullable Field.text (entry "engineVersion" es) = .valid handle.engineVersion
  port : Field.nullable Field.whole (entry "port" es) = .valid handle.port
  domain : Field.nullable Field.text (entry "domain" es) = .valid handle.domain
  vNetIp : Field.nullable Field.text (entry "vnetIp" es) = .valid handle.vNetIp
  capacity : Field.nullable Field.whole (entry "capacity" es) = .valid handle.capacity
  usedCapacity : Field.nullable Field.whole (entry "usedCapacity" es) = .valid handle.usedCapacity
  paymentTiming : Field.nullable Field.text (entry "paymentTiming" es) = .valid handle.paymentTiming
  zoneNames : Field.listOf Field.text (given "zoneNames" es) = .valid handle.zoneNames
  vpcId : Field.nullable Field.text (entry "vpcId" es) = .valid handle.vpcId
  autoRenew : Field.nullable Field.flag (entry "autoRenew" es) = .valid handle.autoRenew
  createTime : Field.nullable Field.text (entry "instanceCreateTime" es) = .valid handle.createTime
  expireTime : Field.nullable Field.text (entry "instanceExpireTime" es) = .valid handle.expireTime

theorem assemble_eq_valid_iff {status : InstanceStatus} {topology : Topology}
    {subnets : List Subnet} :
    assemble (.valid status) (.valid topology) (.valid subnets) es = .valid handle ↔
      handle.status = status ∧ handle.topology = topology ∧ handle.subnets = subnets ∧
      Field.required "instance_id" Field.text es = .valid handle.instanceId ∧
      Field.required "instance_name" Field.text es = .valid handle.instanceName ∧
      Field.optional "node_type" Field.text es = .valid handle.nodeType ∧
      Field.optional "engine" Field.text es = .valid handle.engine ∧
      Field.optional "engine_version" Field.text es = .valid handle.engineVersion ∧
      Field.optional "port" Field.whole es = .valid handle.port ∧
      Field.optional "domain" Field.text es = .valid handle.domain ∧
      Field.optional "v_net_ip" Field.text es = .valid handle.vNetIp ∧
      Field.optional "capacity" Field.whole es = .valid handle.capacity ∧
      Field.optional "used_capacity" Field.whole es = .valid handle.usedCapacity ∧
      Field.optional "payment_timing" Field.text es = .valid handle.paymentTiming ∧
      Field.orElse "zone_names" [] (Field.listOf Field.text) es = .valid handle.zoneNames ∧
      Field.optional "vpc_id" Field.text es = .valid handle.vpcId ∧
      Field.optional "auto_renew" Field.flag es = .valid handle.autoRenew ∧
      Field.orElse "tags" [] Field.textEntries es = .valid handle.tags ∧
      Field.optional "create_time" Field.text es = .valid handle.createTime ∧
      Field.optional "expire_time" Field.text es = .valid handle.expireTime := by
  constructor
  · intro read
    unfold assemble at read
    repeat (replace read := Checked.seq_valid read; obtain ⟨_, _, read, _, rfl⟩ := read)
    replace read := Checked.map_valid read
    obtain ⟨_, _, rfl⟩ := read
    simp only [Checked.valid.injEq] at *
    subst_vars
    simp only [*, and_self]
  · rintro ⟨rfl, rfl, rfl, fields⟩
    unfold assemble
    simp only [fields]
    rfl

end InstanceHandle

namespace Detail

variable {instanceId : Value} {handle : InstanceHandle} {es : List (Value × Value)}

/-- The fields of the record that a detail document is turned into. -/
def recordFields (instanceId : Value) (tags es : List (Value × Value)) : List (Value × Value) :=
  [(.text "instance_id", identifier instanceId es),
    (.text "instance_name", (Value.lookup "instanceName" es).getD (.text "")),
    (.text "zone_names", given "zoneNames" es), (.text "tags", .mapping tags)] ++
  renamedFields.map fun (field, key) => (.text field, entry key es)

theorem assemble_eq_ok_iff {status : InstanceStatus} {clusterType : ClusterType} :
    assemble instanceId status clusterType es = .ok handle ↔
      ∃ topology subnets tags, Detail.topology clusterType es = .ok topology ∧
        Detail.subnets es = .ok subnets ∧ Detail.tags es = .ok tags ∧
        InstanceHandle.assemble (.valid status) (.valid topology) (.valid subnets)
          (recordFields instanceId tags es) = .valid handle := by
  constructor
  · intro assembled
    unfold assemble at assembled
    obtain ⟨topology, shape, assembled⟩ := Fault.ok_of_bind assembled
    obtain ⟨subnetItems, listed, assembled⟩ := Fault.ok_of_bind assembled
    obtain ⟨subnets, read, assembled⟩ := Fault.ok_of_bind assembled
    obtain ⟨tagItems, listedTags, assembled⟩ := Fault.ok_of_bind assembled
    obtain ⟨tags, added, assembled⟩ := Fault.ok_of_bind assembled
    refine ⟨topology, subnets, tags, shape, ?_, ?_, checked_eq_ok_iff.mp assembled⟩
    · unfold Detail.subnets
      rw [listed]
      exact read
    · unfold Detail.tags
      rw [listedTags]
      exact added
  · intro formed
    obtain ⟨topology, subnets, tags, shape, read, added, formed⟩ := formed
    obtain ⟨subnetItems, listed, read⟩ := Fault.ok_of_bind read
    obtain ⟨tagItems, listedTags, added⟩ := Fault.ok_of_bind added
    unfold assemble
    rw [shape, listed, listedTags]
    change (subnetItems.mapM subnet >>= _) = _
    rw [read]
    change (tagItems.foldlM addTag [] >>= _) = _
    rw [added]
    exact checked_eq_ok_iff.mpr formed

end Detail

namespace InstanceHandle

open Detail

variable {instanceId : Value} {handle : InstanceHandle} {es : List (Value × Value)}

section Listed

variable {α : Type} {name : String} {fields : List (Value × Value)} {v : Value}

theorem orElse_eq_valid_iff {read : Value → Checked α} {default a : α}
    (listed : Value.lookup name fields = some v) :
    Field.orElse name default read fields = .valid a ↔ read v = .valid a := by
  unfold Field.orElse
  rw [listed]
  exact Checked.under_eq_valid_iff

theorem optional_eq_valid_iff {read : Value → Checked α} {a : Option α}
    (listed : Value.lookup name fields = some v) :
    Field.optional name read fields = .valid a ↔ Field.nullable read v = .valid a :=
  orElse_eq_valid_iff listed

theorem required_eq_valid_iff {read : Value → Checked α} {a : α}
    (listed : Value.lookup name fields = some v) :
    Field.required name read fields = .valid a ↔ read v = .valid a := by
  simp [Field.required_eq_valid_iff, listed]

end Listed

theorem ofDetail_mapping_iff :
    ofDetail instanceId (.mapping es) = .ok handle ↔
      ∃ status clusterType, Value.lookup "instanceStatus" es = some (.text status.word) ∧
        Detail.clusterType es = .ok clusterType ∧
        Detail.assemble instanceId status clusterType es = .ok handle := by
  rw [ofDetail_mapping]
  constructor
  · intro read
    obtain ⟨status, parsed, read⟩ := Fault.ok_of_bind read
    obtain ⟨clusterType, type, read⟩ := Fault.ok_of_bind read
    cases assembled : Detail.assemble instanceId status clusterType es with
    | error cause =>
        rw [assembled] at read
        cases read
    | ok formed =>
        rw [assembled] at read
        cases read
        exact ⟨status, clusterType, InstanceStatus.parse_entry_eq_ok_iff.mp parsed, type, assembled⟩
  · intro read
    obtain ⟨status, clusterType, given, type, assembled⟩ := read
    rw [Fault.bind_of_ok (InstanceStatus.parse_entry_eq_ok_iff.mpr given), Fault.bind_of_ok type,
      assembled]
    rfl

/-- A detail document is read as a handle exactly when each field of the handle is read from it. -/
theorem ofDetail_eq_ok_iff :
    ofDetail instanceId (.mapping es) = .ok handle ↔ Decodes instanceId es handle := by
  rw [ofDetail_mapping_iff]
  constructor
  · intro read
    obtain ⟨_, clusterType, status, type, assembled⟩ := read
    obtain ⟨topology, subnets, tags, shape, listed, added, formed⟩ :=
      assemble_eq_ok_iff.mp assembled
    obtain ⟨rfl, rfl, rfl, id, name, nodeType, engine, version, port, domain, vNetIp, capacity,
      usedCapacity, paymentTiming, zoneNames, vpcId, autoRenew, tagged, createTime, expireTime⟩ :=
      assemble_eq_valid_iff.mp formed
    obtain rfl : handle.clusterType = clusterType := topology_clusterType shape
    exact {
      status := status
      type := type
      topology := shape
      subnets := listed
      tags := ⟨tags, added, (orElse_eq_valid_iff rfl).mp tagged⟩
      instanceId := (required_eq_valid_iff rfl).mp id
      instanceName := (required_eq_valid_iff rfl).mp name
      nodeType := (optional_eq_valid_iff rfl).mp nodeType
      engine := (optional_eq_valid_iff rfl).mp engine
      engineVersion := (optional_eq_valid_iff rfl).mp version
      port := (optional_eq_valid_iff rfl).mp port
      domain := (optional_eq_valid_iff rfl).mp domain
      vNetIp := (optional_eq_valid_iff rfl).mp vNetIp
      capacity := (optional_eq_valid_iff rfl).mp capacity
      usedCapacity := (optional_eq_valid_iff rfl).mp usedCapacity
      paymentTiming := (optional_eq_valid_iff rfl).mp paymentTiming
      zoneNames := (orElse_eq_valid_iff rfl).mp zoneNames
      vpcId := (optional_eq_valid_iff rfl).mp vpcId
      autoRenew := (optional_eq_valid_iff rfl).mp autoRenew
      createTime := (optional_eq_valid_iff rfl).mp createTime
      expireTime := (optional_eq_valid_iff rfl).mp expireTime }
  · intro decodes
    obtain ⟨tags, added, tagged⟩ := decodes.tags
    refine ⟨handle.status, handle.clusterType, decodes.status, decodes.type, assemble_eq_ok_iff.mpr
      ⟨_, _, tags, decodes.topology, decodes.subnets, added, assemble_eq_valid_iff.mpr ?_⟩⟩
    exact ⟨rfl, rfl, rfl,
      (required_eq_valid_iff rfl).mpr decodes.instanceId,
      (required_eq_valid_iff rfl).mpr decodes.instanceName,
      (optional_eq_valid_iff rfl).mpr decodes.nodeType,
      (optional_eq_valid_iff rfl).mpr decodes.engine,
      (optional_eq_valid_iff rfl).mpr decodes.engineVersion,
      (optional_eq_valid_iff rfl).mpr decodes.port,
      (optional_eq_valid_iff rfl).mpr decodes.domain,
      (optional_eq_valid_iff rfl).mpr decodes.vNetIp,
      (optional_eq_valid_iff rfl).mpr decodes.capacity,
      (optional_eq_valid_iff rfl).mpr decodes.usedCapacity,
      (optional_eq_valid_iff rfl).mpr decodes.paymentTiming,
      (orElse_eq_valid_iff rfl).mpr decodes.zoneNames,
      (optional_eq_valid_iff rfl).mpr decodes.vpcId,
      (optional_eq_valid_iff rfl).mpr decodes.autoRenew,
      (orElse_eq_valid_iff rfl).mpr tagged,
      (optional_eq_valid_iff rfl).mpr decodes.createTime,
      (optional_eq_valid_iff rfl).mpr decodes.expireTime⟩

/-! ### What plans look at -/

/-- What a handle and the document that it comes from have in common, as far as plans go. -/
structure ReadFrom (handle : InstanceHandle) (es : List (Value × Value)) : Prop where
  type : Detail.clusterType es = .ok handle.clusterType
  shape : Detail.topology handle.clusterType es = .ok handle.topology
  name : Field.text ((Value.lookup "instanceName" es).getD (.text "")) =
    .valid handle.instanceName
  version : Field.nullable Field.text ((Value.lookup "engineVersion" es).getD .null) =
    .valid handle.engineVersion
  port : Field.nullable Field.whole ((Value.lookup "port" es).getD .null) = .valid handle.port

theorem Decodes.readFrom (decodes : Decodes instanceId es handle) : handle.ReadFrom es :=
  ⟨decodes.type, decodes.topology, decodes.instanceName, decodes.engineVersion, decodes.port⟩

theorem ofDetail_ok {detail : Value} (read : ofDetail instanceId detail = .ok handle) :
    ∃ es, detail = .mapping es ∧ handle.ReadFrom es := by
  cases detail with
  | mapping es => exact ⟨es, rfl, (ofDetail_eq_ok_iff.mp read).readFrom⟩
  | _ => cases read

end InstanceHandle

end CacheSteward
