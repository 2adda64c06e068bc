import CacheSteward.Instance.Detail
import CacheSteward.Rehearsal.Stage
import CacheSteward.Spec

namespace CacheSteward.Rehearsal.Sample

/-! Sample specs and details to rehearse with.

Each sample is complete as it is.  Changes replace parts of it by name or add to it; what a sample
is a sample of cannot be changed.
-/

abbrev Changes := List (Value × Value)

/-- The parts that changes may replace, as they are after the changes. -/
def replaced (parts : List (String × Value)) (changes : Changes) : List (Value × Value) :=
  parts.map fun (name, usual) => (.text name, (Value.lookup name changes).getD usual)

def added (names : List String) (changes : Changes) : List (Value × Value) :=
  changes.filter fun (key, _) => match key.text? with
    | some name => !names.contains name
    | none => true

/-- A spec of usual parts, which changes may replace, and fixed parts, which they may not. -/
def spec (usual fixed : List (String × Value)) (changes : Changes) : Except Fault DesiredSpec :=
  let others := added (usual.map Prod.fst) changes
  let clash := others.find? fun (key, _) => (fixed.map Prod.fst).contains key.shown
  match clash with
  | some (key, _) =>
      .error (.mismatch ("scs_ops_agent.models.instance." ++ DesiredSpec.title ++
        "() got multiple values for keyword argument " ++ key.inside))
  | none =>
      Detail.checked DesiredSpec.title (DesiredSpec.ofEntries
        (replaced usual changes ++ (fixed.map fun (name, v) => (.text name, v)) ++ others))

def masterSlaveSpec : Changes → Except Fault DesiredSpec :=
  spec [("instance_name", .text "terraform-redis"), ("node_type", .text "cache.n1.micro")]
    [("cluster_type", .text ClusterType.masterSlave.word), ("shard_num", .whole 1)]

def clusterSpec : Changes → Except Fault DesiredSpec :=
  spec [("instance_name", .text "terraform-redis-cluster"), ("shard_num", .whole 2),
      ("node_type", .text "cache.n1.small")]
    [("cluster_type", .text ClusterType.cluster.word)]

/-- A prepaid pair that is renewed month by month.  Only its name and the length of its
reservation can be changed. -/
def prepaidSpec (changes : Changes) : Except Fault DesiredSpec := do
  if let (key, _) :: _ := added ["instance_name", "reservation_length"] changes then
    throw (.mismatch ("DesiredSpecFactory.create_prepaid() got an unexpected keyword argument " ++
      key.inside))
  let reservation ← Detail.checked Reservation.title
    (Reservation.ofEntries (replaced [("reservation_length", .whole 1)] changes))
  spec [("instance_name", .text "prepaid-redis")]
    [("node_type", .text "cache.n1.micro"),
      ("billing", .fields [("payment_timing", .text PaymentTiming.prepaid.word),
        ("reservation", reservation.document)]),
      ("auto_renew_time_unit", .text RenewalUnit.month.word), ("auto_renew_time_length", .whole 1)]
    (changes.filter fun (key, _) => key.same (.text "instance_name"))

def member (α : Type) [Enumerated α] (name : String) (usual : α) (changes : Changes) :
    Except Fault Value :=
  match Value.lookup name changes with
  | none => .ok (.text (Enumerated.word usual))
  | some v =>
      match v.text?.bind (Enumerated.ofWord? (α := α)) with
      | some a => .ok (.text (Enumerated.word a))
      | none =>
          .error (.plain .value [.text (v.inside ++ " is not a valid " ++ Enumerated.title α)])

def detailNames : List String :=
  ["instance_id", "status", "instance_name", "cluster_type", "node_type", "shard_num"]

def freshId : String := "scs-" ++ ((tokenAfter 0).take 8).toString

def detail (changes : Changes) : Except Fault Value := do
  let status ← member InstanceStatus "status" .running changes
  let clusterType ← member ClusterType "cluster_type" .masterSlave changes
  let part (name : String) (usual : Value) : Value := (Value.lookup name changes).getD usual
  let id := part "instance_id" .null
  let usual : List (String × Value) :=
    [("instanceId", if id.isGiven then id else .text freshId),
      ("instanceName", part "instance_name" (.text "terraform-redis")),
      ("instanceStatus", status), ("clusterType", clusterType),
      ("nodeType", part "node_type" (.text "cache.n1.micro")),
      ("shardNum", part "shard_num" (.whole 1)), ("engine", .text "redis"),
      ("engineVersion", .text EngineVersion.v3_2.word), ("port", .whole 6379),
      ("domain", .text "redis.example.internal"), ("vnetIp", .text "192.168.0.10"),
      ("capacity", .whole 1), ("usedCapacity", .whole 0),
      ("paymentTiming", .text PaymentTiming.postpaid.word),
      ("zoneNames", .list [.text "cn-bj-a"]), ("vpcId", .text "vpc-default"),
      ("subnets", .list [.fields [("subnetId", .text "sbn-default"),
        ("zoneName", .text "cn-bj-a")]]),
      ("autoRenew", .flag false), ("tags", .list []),
      ("instanceCreateTime", .text "2026-01-01T00:00:00Z"), ("instanceExpireTime", .text "")]
  return .mapping (Value.merge (added detailNames changes)
    (usual.map fun (key, v) => (.text key, v)))

def handle (changes : Changes) : Except Fault InstanceHandle := do
  let id := (Value.lookup "instance_id" changes).getD (.text "scs-test")
  let detail ← detail (Value.put (.text "instance_id") id changes)
  InstanceHandle.ofDetail id detail

end CacheSteward.Rehearsal.Sample
