import CacheSteward.Fault
import CacheSteward.Instance.Subnet
import CacheSteward.Instance.Topology

namespace CacheSteward

/-! The observed state of an instance. -/

structure InstanceHandle where
  instanceId : String
  instanceName : String
  status : InstanceStatus
  topology : Topology
  nodeType : Option String
  engine : Option String
  engineVersion : Option String
  port : Option Int
  domain : Option String
  vNetIp : Option String
  capacity : Option Int
  usedCapacity : Option Int
  paymentTiming : Option String
  zoneNames : List String
  vpcId : Option String
  subnets : List Subnet
  autoRenew : Option Bool
  tags : List (String × String)
  createTime : Option String
  expireTime : Option String
deriving Repr, DecidableEq

namespace InstanceHandle

def title : String := "InstanceHandle"

def assemble (status : Checked InstanceStatus) (topology : Checked Topology)
    (subnets : Checked (List Subnet)) (es : List (Value × Value)) : Checked InstanceHandle :=
  InstanceHandle.mk <$> Field.required "instance_id" Field.text es <*>
    Field.required "instance_name" Field.text es <*>
    status <*>
    topology <*>
    Field.optional "node_type" Field.text es <*>
    Field.optional "engine" Field.text es <*>
    Field.optional "engine_version" Field.text es <*>
    Field.optional "port" Field.whole es <*>
    Field.optional "domain" Field.text es <*>
    Field.optional "v_net_ip" Field.text es <*>
    Field.optional "capacity" Field.whole es <*>
    Field.optional "used_capacity" Field.whole es <*>
    Field.optional "payment_timing" Field.text es <*>
    Field.orElse "zone_names" [] (Field.listOf Field.text) es <*>
    Field.optional "vpc_id" Field.text es <*>
    subnets <*>
    Field.optional "auto_renew" Field.flag es <*>
    Field.orElse "tags" [] Field.textEntries es <*>
    Field.optional "create_time" Field.text es <*>
    Field.optional "expire_time" Field.text es

def ofEntries (es : List (Value × Value)) : Checked InstanceHandle :=
  assemble (Field.required "status" Field.member es) (Field.required "topology" Topology.read es)
    (Field.orElse "subnets" [] (Field.listOf Subnet.read) es) es

def clusterType (handle : InstanceHandle) : ClusterType := handle.topology.clusterType

def document (handle : InstanceHandle) : Value :=
  let whole? (n : Option Int) : Value := (n.map Value.whole).getD .null
  .fields [("instance_id", .text handle.instanceId), ("instance_name", .text handle.instanceName),
    ("status", .text handle.status.word), ("topology", handle.topology.document),
    ("node_type", .ofText? handle.nodeType), ("engine", .ofText? handle.engine),
    ("engine_version", .ofText? handle.engineVersion), ("port", whole? handle.port),
    ("domain", .ofText? handle.domain), ("v_net_ip", .ofText? handle.vNetIp),
    ("capacity", whole? handle.capacity), ("used_capacity", whole? handle.usedCapacity),
    ("payment_timing", .ofText? handle.paymentTiming),
    ("zone_names", .list (handle.zoneNames.map Value.text)), ("vpc_id", .ofText? handle.vpcId),
    ("subnets", .list (handle.subnets.map Subnet.document)),
    ("auto_renew", (handle.autoRenew.map Value.flag).getD .null),
    ("tags", .fields (handle.tags.map fun (k, v) => (k, .text v))),
    ("create_time", .ofText? handle.createTime), ("expire_time", .ofText? handle.expireTime)]

end InstanceHandle

end CacheSteward
