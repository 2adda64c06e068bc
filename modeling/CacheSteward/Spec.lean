import CacheSteward.Fault
import CacheSteward.Instance.Billing
import CacheSteward.Instance.Subnet
import CacheSteward.Instance.Topology
import CacheSteward.Spec.Name

namespace CacheSteward

/-! The desired configuration of an instance.

A spec is read from a mapping with all its rules checked, written back as a document with every
field by name, and turned into the request that creates the instance.
-/

structure DesiredSpec where
  instanceName : String
  nodeType : String
  clusterType : ClusterType
  shardNum : Int
  engineVersion : EngineVersion
  port : Int
  proxyNum : Int
  replicationNum : Int
  purchaseCount : Int
  vpcId : Option String
  subnets : List Subnet
  billing : Billing
  renewalUnit : Option RenewalUnit
  renewalLength : Option Int
deriving Repr, DecidableEq

namespace DesiredSpec

def title : String := "DesiredSpec"

def allowedShardNums : List Int := [2, 4, 6, 8, 12, 16, 24, 32, 48, 64, 96, 128]

def readName (v : Value) : Checked String :=
  (Field.text v).ensure Spec.isName (.custom
    ("instance_name must start with a letter, be 1-65 characters long and " ++
      "contain only letters, digits, Chinese characters and '-', '_', '/', '.'"))

/-- The shard count, which the cluster type limits as far as that could be read. -/
def readShardNum (clusterType : Option ClusterType) (v : Value) : Checked Int :=
  (Field.whole v).andThen fun n =>
    match clusterType with
    | some .cluster =>
        if allowedShardNums.contains n then .valid n
        else .fail (.custom ("shard_num must be one of " ++
          Reservation.shownList allowedShardNums ++ " for cluster instances"))
    | some .masterSlave =>
        if n = 1 then .valid n
        else .fail (.custom "shard_num must be 1 for master_slave instances")
    | none => .valid n

def readEngineVersion (v : Value) : Checked EngineVersion :=
  (Field.text v).andThen fun s =>
    match EngineVersion.ofWord? s with
    | some version => .valid version
    | none => .fail (.custom ("engine_version must be one of [" ++
        Rule.quotedList (EngineVersion.all.map EngineVersion.word) ++ "]"))

/-- The renewal unit, which only prepaid billing allows as far as that could be read. -/
def readRenewalUnit (billing : Option Billing) (v : Value) : Checked RenewalUnit :=
  (Field.text v).andThen fun s =>
    match RenewalUnit.ofWord? s with
    | none => .fail (.custom "auto_renew_time_unit must be month or year")
    | some unit =>
        match billing with
        | none => .valid unit
        | some billing =>
            if billing.paymentTiming = .prepaid then .valid unit
            else .fail (.custom
              "auto_renew_time_unit is only valid when payment_timing is Prepaid")

/-- The renewal length, which the unit limits as far as there is one. -/
def readRenewalLength (unit : Option RenewalUnit) (v : Value) : Checked Int :=
  (Field.whole v).andThen fun n =>
    match unit with
    | none => .valid n
    | some unit =>
        if 1 ≤ n ∧ n ≤ unit.mostLength then .valid n
        else .fail (.custom ("auto_renew_time_length must be 1-" ++ toString unit.mostLength ++
          " when auto_renew_time_unit is " ++ unit.word))

/-- Reads all fields, reporting violations in the order of the fields. -/
def ofEntries (es : List (Value × Value)) : Checked DesiredSpec :=
  let clusterType := Field.orElse "cluster_type" ClusterType.masterSlave Field.member es
  let shardNum := (readShardNum clusterType.toOption
    ((Value.lookup "shard_num" es).getD (.whole 1))).under (.field "shard_num")
  let billing := Field.orElse "billing" {} Billing.read es
  let renewalUnit := Field.optional "auto_renew_time_unit" (readRenewalUnit billing.toOption) es
  let renewalLength := Field.optional "auto_renew_time_length"
    (readRenewalLength (renewalUnit.toOption.bind id)) es
  DesiredSpec.mk <$> Field.required "instance_name" readName es <*>
    Field.required "node_type" Field.text es <*>
    clusterType <*>
    shardNum <*>
    Field.orElse "engine_version" EngineVersion.v3_2 readEngineVersion es <*>
    Field.orElse "port" 6379 (Field.wholeWithin 1 65535) es <*>
    Field.orElse "proxy_num" 0 (Field.wholeAtLeast 0) es <*>
    Field.orElse "replication_num" 2 (Field.wholeAtLeast 1) es <*>
    Field.orElse "purchase_count" 1 (Field.wholeAtLeast 1) es <*>
    Field.optional "vpc_id" Field.text es <*>
    Field.orElse "subnets" [] (Field.listOf Subnet.read) es <*>
    billing <*>
    renewalUnit <*>
    renewalLength

def rejected (reason : String) (field : Option String) : Fault :=
  .validation ("Invalid desired spec: " ++ reason) field .null

/-- Reads a spec from a configuration document.  The first violation is the one reported. -/
def ofConfig (data : Value) : Except Fault DesiredSpec :=
  match data with
  | .mapping es =>
      if es.all fun (k, _) => k.text?.isSome then
        match ofEntries es with
        | .valid spec => .ok spec
        | .invalid first _ =>
            .error (rejected first.rule.message
              (some (".".intercalate (first.place.map Segment.text))))
      else .error (rejected Rule.textKeys.message none)
  | v => .error (rejected
      ("scs_ops_agent.models.instance.DesiredSpec() argument after ** must be a mapping, not " ++
        v.kindName) none)

def topology (spec : DesiredSpec) : Topology :=
  match spec.clusterType with
  | .cluster => .cluster spec.shardNum
  | .masterSlave => .masterSlave spec.nodeType

def document (spec : DesiredSpec) : Value :=
  .fields [("instance_name", .text spec.instanceName), ("node_type", .text spec.nodeType),
    ("cluster_type", .text spec.clusterType.word), ("shard_num", .whole spec.shardNum),
    ("engine_version", .text spec.engineVersion.word), ("port", .whole spec.port),
    ("proxy_num", .whole spec.proxyNum), ("replication_num", .whole spec.replicationNum),
    ("purchase_count", .whole spec.purchaseCount), ("vpc_id", .ofText? spec.vpcId),
    ("subnets", .list (spec.subnets.map Subnet.document)), ("billing", spec.billing.document),
    ("auto_renew_time_unit", .ofText? (spec.renewalUnit.map RenewalUnit.word)),
    ("auto_renew_time_length", (spec.renewalLength.map Value.whole).getD .null)]

/-- Renewal takes effect only for prepaid billing and only when its unit is set. -/
def renewalArgs (spec : DesiredSpec) : List (String × Value) :=
  match spec.billing.paymentTiming, spec.renewalUnit with
  | .prepaid, some unit =>
      let length := match spec.renewalLength with
        | some n => if n = 0 then 1 else n
        | none => 1
      [("autoRenewTimeUnit", .text unit.word), ("autoRenewTime", .whole length)]
  | _, _ => []

def createArgs (spec : DesiredSpec) : Value :=
  .fields ([("instanceName", .text spec.instanceName), ("nodeType", .text spec.nodeType),
    ("clusterType", .text spec.clusterType.word), ("shardNum", .whole spec.shardNum),
    ("engineVersion", .text spec.engineVersion.word), ("port", .whole spec.port),
    ("proxyNum", .whole spec.proxyNum), ("replicationNum", .whole spec.replicationNum),
    ("purchaseCount", .whole spec.purchaseCount), ("billing", spec.billing.wire)] ++
    spec.renewalArgs ++
    (match spec.vpcId with
      | some vpc => if vpc.isEmpty then [] else [("vpcId", .text vpc)]
      | none => []) ++
    (if spec.subnets.isEmpty then [] else [("subnets", .list (spec.subnets.map Subnet.wire))]))

end DesiredSpec

end CacheSteward
