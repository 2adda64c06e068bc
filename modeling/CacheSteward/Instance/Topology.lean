import CacheSteward.Instance.Kind
import CacheSteward.Record.Field

namespace CacheSteward

/-! The shape of an instance: a cluster is resized by its shard count, a master/slave pair by its
node type. -/

inductive Topology where
  | cluster (shardNum : Int)
  | masterSlave (nodeType : String)
deriving Repr, DecidableEq

namespace Topology

def clusterType : Topology → ClusterType
  | .cluster _ => .cluster
  | .masterSlave _ => .masterSlave

def document : Topology → Value
  | .cluster shardNum =>
      .fields [("cluster_type", .text ClusterType.cluster.word), ("shard_num", .whole shardNum)]
  | .masterSlave nodeType =>
      .fields [("cluster_type", .text ClusterType.masterSlave.word), ("node_type", .text nodeType)]

def clusterTitle : String := "ClusterTopology"

def masterSlaveTitle : String := "MasterSlaveTopology"

/-- A cluster from its fields; the type may be repeated among them. -/
def clusterOfEntries (es : List (Value × Value)) : Checked Topology :=
  (fun _ shardNum => .cluster shardNum) <$>
    Field.orElse "cluster_type" () (Field.constant ClusterType.cluster.word) es <*>
    Field.required "shard_num" (Field.wholeAtLeast 1) es

/-- A master/slave pair from its fields; the type may be repeated among them. -/
def masterSlaveOfEntries (es : List (Value × Value)) : Checked Topology :=
  (fun _ nodeType => .masterSlave nodeType) <$>
    Field.orElse "cluster_type" () (Field.constant ClusterType.masterSlave.word) es <*>
    Field.required "node_type" Field.text es

def read (v : Value) : Checked Topology :=
  match v with
  | .null => .fail .nullNotAllowed
  | .mapping es =>
      match Value.lookup "cluster_type" es with
      | none => .fail (.tagMissing "cluster_type")
      | some given =>
          let named (title : String) (variant : List (Value × Value) → Checked Topology) :=
            ((Field.recordEntries v).andThen variant).under (.field title)
          match given.text?.bind Enumerated.ofWord? with
          | some ClusterType.cluster => named clusterTitle clusterOfEntries
          | some ClusterType.masterSlave => named masterSlaveTitle masterSlaveOfEntries
          | none => .fail (.tagUnknown "cluster_type" given
              ((Enumerated.all : List ClusterType).map ClusterType.word))
  | _ => .fail (.tagMissing "cluster_type")

/-- The type that a document names cannot even be looked up, because it is no key. -/
def tagIsNoKey (v : Value) : Bool :=
  match v.get? "cluster_type" with
  | some given => !given.isKey
  | none => false

end Topology

end CacheSteward
