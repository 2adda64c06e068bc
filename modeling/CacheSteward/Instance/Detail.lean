import CacheSteward.Instance.Handle

namespace CacheSteward

/-! Reading the control plane's detail document of an instance.

The status is judged first, then the cluster type.  Whatever else is malformed is one kind of
fault, which names the instance and carries what went wrong as its cause.
-/

namespace InstanceStatus

/-- The status that a document gives.  Anything unknown is an unexpected state. -/
def parse (raw instanceId : Value) (operation : Option String) : Except Fault InstanceStatus :=
  match raw.text?.bind Enumerated.ofWord? with
  | some status => .ok status
  | none => .error (.unexpectedState (.text raw.shown) operation instanceId)

theorem parse_eq_ok_iff {raw instanceId : Value} {operation : Option String}
    {status : InstanceStatus} :
    parse raw instanceId operation = .ok status ↔ raw = .text status.word := by
  constructor
  · intro parsed
    unfold parse at parsed
    split at parsed
    · rename_i found
      cases parsed
      cases raw with
      | text s => rw [InstanceStatus.word, Enumerated.word_of_ofWord? found]
      | _ => cases found
    · cases parsed
  · intro same
    subst same
    have found : (Value.text status.word).text?.bind Enumerated.ofWord? = some status :=
      ofWord?_word status
    simp only [parse, found]

/-- A status is given under its key; leaving the key out gives none. -/
theorem parse_entry_eq_ok_iff {entry : Option Value} {instanceId : Value}
    {operation : Option String} {status : InstanceStatus} :
    parse (entry.getD .null) instanceId operation = .ok status ↔
      entry = some (.text status.word) := by
  rw [parse_eq_ok_iff]
  cases entry <;> simp

theorem parse_entry_of_unknown {entry : Option Value} {instanceId : Value}
    {operation : Option String}
    (unknown : ∀ status : InstanceStatus, entry ≠ some (.text status.word)) :
    parse (entry.getD .null) instanceId operation =
      .error (.unexpectedState (.text (entry.getD .null).shown) operation instanceId) := by
  cases parsed : parse (entry.getD .null) instanceId operation with
  | ok status => exact absurd (parse_entry_eq_ok_iff.mp parsed) (unknown status)
  | error fault =>
      unfold parse at parsed
      split at parsed
      · cases parsed
      · exact parsed.symm

end InstanceStatus

namespace Detail

def get (key : String) (detail : Value) : Except Fault (Option Value) :=
  match detail with
  | .mapping es => .ok (Value.lookup key es)
  | v => .error (.noSuchPart v "get")

theorem get_eq_ok_iff {key : String} {detail : Value} {entry : Option Value} :
    get key detail = .ok entry ↔ (∃ es, detail = .mapping es) ∧ detail.get? key = entry := by
  cases detail with
  | mapping es => simp [get, Value.get?]
  | _ => simp [get]

def given (key : String) (es : List (Value × Value)) : Value :=
  match Value.lookup key es with
  | some v => if v.isGiven then v else .list []
  | none => .list []

def items (v : Value) : Except Fault (List Value) :=
  match v with
  | .list vs => .ok vs
  | .text s => .ok (s.toList.map fun c => .text (String.singleton c))
  | .mapping es => .ok (es.map (·.1))
  | v => .error (.notIterable v)

def checked {α : Type} (record : String) : Checked α → Except Fault α
  | .valid a => .ok a
  | .invalid first rest => .error (.invalidRecord record (first :: rest))

def topology (clusterType : ClusterType) (es : List (Value × Value)) : Except Fault Topology :=
  match clusterType with
  | .cluster => checked Topology.clusterTitle
      (Topology.clusterOfEntries
        [(.text "shard_num", (Value.lookup "shardNum" es).getD (.whole 1))])
  | .masterSlave => checked Topology.masterSlaveTitle
      (Topology.masterSlaveOfEntries
        [(.text "node_type", (Value.lookup "nodeType" es).getD (.text ""))])

def subnet (v : Value) : Except Fault Subnet := do
  let subnetId ← get "subnetId" v
  let zoneName ← get "zoneName" v
  checked Subnet.title (Subnet.ofEntries [(.text "subnet_id", subnetId.getD (.text "")),
    (.text "zone_name", zoneName.getD (.text ""))])

/-- Whether a list item can hold a tag key at all, and whether it does. -/
def hasTagKey (v : Value) : Except Fault Bool :=
  match v with
  | .mapping es => .ok (Value.lookup "tagKey" es).isSome
  | .list vs => .ok (vs.any fun item => item.same (.text "tagKey"))
  | .text s => .ok ((s.splitOn "tagKey").length > 1)
  | v => .error (.mismatch ("argument of type " ++ Text.quoted v.kindName ++ " is not iterable"))

def addTag (tags : List (Value × Value)) (v : Value) : Except Fault (List (Value × Value)) := do
  if ← hasTagKey v then
    match v with
    | .mapping es =>
        let key := (Value.lookup "tagKey" es).getD .null
        let value := (Value.lookup "tagValue" es).getD (.text "")
        if key.isKey then return Value.put key value tags else throw (.noKey key)
    | .list _ => throw (.mismatch "list indices must be integers or slices, not str")
    | _ => throw (.mismatch "string indices must be integers, not 'str'")
  else return tags

def renamedFields : List (String × String) :=
  [("node_type", "nodeType"), ("engine", "engine"), ("engine_version", "engineVersion"),
    ("port", "port"), ("domain", "domain"), ("v_net_ip", "vnetIp"), ("capacity", "capacity"),
    ("used_capacity", "usedCapacity"), ("payment_timing", "paymentTiming"), ("vpc_id", "vpcId"),
    ("auto_renew", "autoRenew"), ("create_time", "instanceCreateTime"),
    ("expire_time", "instanceExpireTime")]

def assemble (instanceId : Value) (status : InstanceStatus) (clusterType : ClusterType)
    (es : List (Value × Value)) : Except Fault InstanceHandle := do
  let topology ← topology clusterType es
  let subnets ← (← items (given "subnets" es)).mapM subnet
  let tags ← (← items (given "tags" es)).foldlM addTag []
  let named := (Value.lookup "instanceId" es).getD .null
  let fields : List (Value × Value) :=
    [(.text "instance_id", if named.isGiven then named else instanceId),
      (.text "instance_name", (Value.lookup "instanceName" es).getD (.text "")),
      (.text "zone_names", given "zoneNames" es), (.text "tags", .mapping tags)] ++
    renamedFields.map fun (field, key) => (.text field, (Value.lookup key es).getD .null)
  checked InstanceHandle.title
    (InstanceHandle.assemble (.valid status) (.valid topology) (.valid subnets) fields)

/-- Whether a failure says that a document is malformed: it is no such record, or some part of it is
of the wrong kind. -/
def isMalformation : Fault → Bool
  | .invalidRecord _ _ => true
  | .plain kind _ => kind == .mismatch || kind == .noSuchPart
  | _ => false

def malformed (instanceId : Value) (cause : Fault) : Fault :=
  .remoteOperation
    ("Malformed detail for SCS instance '" ++ instanceId.shown ++ "': " ++ cause.text)
    (some OperationKind.read.word) instanceId (some cause)

/-- The cluster type that a document gives; master/slave when it gives none. -/
def clusterType (es : List (Value × Value)) : Except Fault ClusterType :=
  let given := (Value.lookup "clusterType" es).getD (.text ClusterType.masterSlave.word)
  match given.text?.bind Enumerated.ofWord? with
  | some clusterType => .ok clusterType
  | none => .error (.validation ("Unknown cluster type '" ++ given.shown ++ "'")
      (some "clusterType") given)

end Detail

namespace InstanceHandle

def ofDetail (instanceId detail : Value) : Except Fault InstanceHandle := do
  let raw ← Detail.get "instanceStatus" detail
  let status ← InstanceStatus.parse (raw.getD .null) instanceId (some OperationKind.read.word)
  match detail with
  | .mapping es =>
      let clusterType ← Detail.clusterType es
      match Detail.assemble instanceId status clusterType es with
      | .ok handle => return handle
      | .error cause =>
          throw (if Detail.isMalformation cause then Detail.malformed instanceId cause else cause)
  | v => throw (.noSuchPart v "get")

end InstanceHandle

end CacheSteward
