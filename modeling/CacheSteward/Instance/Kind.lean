import CacheSteward.Record.Violation

namespace CacheSteward

/-! The words of the control plane: operations, statuses, cluster types, payment timings, engine
versions and renewal units. -/

inductive OperationKind where
  | create
  | read
  | rename
  | resizeNodeType
  | resizeShardNum
  | delete
deriving Repr, DecidableEq

instance : Enumerated OperationKind where
  title := "OperationKind"
  all := [.create, .read, .rename, .resizeNodeType, .resizeShardNum, .delete]
  member
    | .create => ⟨"CREATE", "create"⟩
    | .read => ⟨"READ", "read"⟩
    | .rename => ⟨"RENAME", "rename"⟩
    | .resizeNodeType => ⟨"RESIZE_NODE_TYPE", "resize_node_type"⟩
    | .resizeShardNum => ⟨"RESIZE_SHARD_NUM", "resize_shard_num"⟩
    | .delete => ⟨"DELETE", "delete"⟩

def OperationKind.word (kind : OperationKind) : String := Enumerated.word kind

inductive InstanceStatus where
  | creating
  | running
  | modifying
  | modifyFailed
  | pausing
  | paused
  | deleting
  | deleted
  | isolated
  | failed
  | expired
deriving Repr, DecidableEq

instance : Enumerated InstanceStatus where
  title := "InstanceStatus"
  all := [.creating, .running, .modifying, .modifyFailed, .pausing, .paused, .deleting, .deleted,
    .isolated, .failed, .expired]
  member
    | .creating => ⟨"CREATING", "Creating"⟩
    | .running => ⟨"RUNNING", "Running"⟩
    | .modifying => ⟨"MODIFYING", "Modifying"⟩
    | .modifyFailed => ⟨"MODIFY_FAILED", "ModifyFailed"⟩
    | .pausing => ⟨"PAUSING", "Pausing"⟩
    | .paused => ⟨"PAUSED", "Paused"⟩
    | .deleting => ⟨"DELETING", "Deleting"⟩
    | .deleted => ⟨"DELETED", "Deleted"⟩
    | .isolated => ⟨"ISOLATED", "Isolated"⟩
    | .failed => ⟨"FAILED", "Failed"⟩
    | .expired => ⟨"EXPIRED", "Expired"⟩

namespace InstanceStatus

def word (status : InstanceStatus) : String := Enumerated.word status

theorem ofWord?_word (status : InstanceStatus) :
    Enumerated.ofWord? status.word = some status := by
  cases status <;> rfl

def runningOnly : List InstanceStatus := [.running]

/-- Statuses that all count as gone once a delete was accepted. -/
def gone : List InstanceStatus := [.paused, .deleted, .isolated]

def badForCreate : List InstanceStatus :=
  [.pausing, .paused, .deleted, .deleting, .failed, .modifying, .modifyFailed, .expired]

def badForUpdate : List InstanceStatus :=
  [.modifyFailed, .failed, .pausing, .paused, .deleting, .deleted, .isolated, .expired]

end InstanceStatus

inductive ClusterType where
  | cluster
  | masterSlave
deriving Repr, DecidableEq

instance : Enumerated ClusterType where
  title := "ClusterType"
  all := [.cluster, .masterSlave]
  member
    | .cluster => ⟨"CLUSTER", "cluster"⟩
    | .masterSlave => ⟨"MASTER_SLAVE", "master_slave"⟩

def ClusterType.word (clusterType : ClusterType) : String := Enumerated.word clusterType

inductive PaymentTiming where
  | prepaid
  | postpaid
deriving Repr, DecidableEq

instance : Enumerated PaymentTiming where
  title := "PaymentTiming"
  all := [.prepaid, .postpaid]
  member
    | .prepaid => ⟨"PREPAID", "Prepaid"⟩
    | .postpaid => ⟨"POSTPAID", "Postpaid"⟩

def PaymentTiming.word (timing : PaymentTiming) : String := Enumerated.word timing

inductive EngineVersion where
  | v3_2
  | v4_0
deriving Repr, DecidableEq

namespace EngineVersion

def word : EngineVersion → String
  | .v3_2 => "3.2"
  | .v4_0 => "4.0"

def all : List EngineVersion := [.v3_2, .v4_0]

def ofWord? (s : String) : Option EngineVersion := all.find? (·.word == s)

end EngineVersion

inductive RenewalUnit where
  | month
  | year
deriving Repr, DecidableEq

namespace RenewalUnit

def word : RenewalUnit → String
  | .month => "month"
  | .year => "year"

def ofWord? (s : String) : Option RenewalUnit := [RenewalUnit.month, .year].find? (·.word == s)

/-- The most units that can be renewed at once. -/
def mostLength : RenewalUnit → Int
  | .month => 9
  | .year => 3

end RenewalUnit

end CacheSteward
