import CacheSteward.Instance.Handle
import CacheSteward.Pending
import CacheSteward.Plan.Step
import CacheSteward.Spec

namespace CacheSteward

/-! All types of records in one catalogue: reading a record of any type from its fields, writing it
back, and changing a field of it. -/

inductive RecordType where
  | desiredSpec
  | instanceHandle
  | reservation
  | billing
  | subnet
  | clusterTopology
  | masterSlaveTopology
  | step
  | pendingOperation
deriving Repr, DecidableEq

namespace RecordType

def title : RecordType → String
  | .desiredSpec => DesiredSpec.title
  | .instanceHandle => InstanceHandle.title
  | .reservation => Reservation.title
  | .billing => Billing.title
  | .subnet => Subnet.title
  | .clusterTopology => Topology.clusterTitle
  | .masterSlaveTopology => Topology.masterSlaveTitle
  | .step => Step.title
  | .pendingOperation => PendingOperation.title

def all : List RecordType :=
  [.desiredSpec, .instanceHandle, .reservation, .billing, .subnet, .clusterTopology,
    .masterSlaveTopology, .step, .pendingOperation]

def ofTitle? (title : String) : Option RecordType := all.find? (·.title == title)

/-- Only pending operations change in place. -/
def isFrozen : RecordType → Bool
  | .pendingOperation => false
  | _ => true

end RecordType

inductive Record where
  | desiredSpec (spec : DesiredSpec)
  | instanceHandle (handle : InstanceHandle)
  | reservation (terms : Reservation)
  | billing (terms : Billing)
  | subnet (placement : Subnet)
  | topology (shape : Topology)
  | step (mutation : Step)
  | pendingOperation (issued : IssuedOperation)

namespace Record

def type : Record → RecordType
  | .desiredSpec _ => .desiredSpec
  | .instanceHandle _ => .instanceHandle
  | .reservation _ => .reservation
  | .billing _ => .billing
  | .subnet _ => .subnet
  | .topology (.cluster _) => .clusterTopology
  | .topology (.masterSlave _) => .masterSlaveTopology
  | .step _ => .step
  | .pendingOperation _ => .pendingOperation

def document : Record → Value
  | .desiredSpec spec => spec.document
  | .instanceHandle handle => handle.document
  | .reservation terms => terms.document
  | .billing terms => terms.document
  | .subnet placement => placement.document
  | .topology shape => shape.document
  | .step mutation => mutation.document
  | .pendingOperation issued => issued.document

/-- What makes it impossible to even judge the fields of a record. -/
def obstacle? (type : RecordType) (es : List (Value × Value)) : Option Fault :=
  match type with
  | .instanceHandle =>
      if Topology.tagIsNoKey ((Value.lookup "topology" es).getD .null) then
        some (.plain .variant [.text
          ("field \"topology\" not yet prepared so type is still a ForwardRef, " ++
            "you might need to call InstanceHandle.update_forward_refs().")])
      else none
  | .pendingOperation => IssuedOperation.timeoutFault? es
  | _ => none

def ofEntries (type : RecordType) (es : List (Value × Value)) : Checked Record :=
  match type with
  | .desiredSpec => Record.desiredSpec <$> DesiredSpec.ofEntries es
  | .instanceHandle => Record.instanceHandle <$> InstanceHandle.ofEntries es
  | .reservation => Record.reservation <$> Reservation.ofEntries es
  | .billing => Record.billing <$> Billing.ofEntries es
  | .subnet => Record.subnet <$> Subnet.ofEntries es
  | .clusterTopology => Record.topology <$> Topology.clusterOfEntries es
  | .masterSlaveTopology => Record.topology <$> Topology.masterSlaveOfEntries es
  | .step => Record.step <$> Step.ofEntries es
  | .pendingOperation => Record.pendingOperation <$> IssuedOperation.ofEntries es

def read (type : RecordType) (es : List (Value × Value)) : Except Fault Record :=
  match obstacle? type es with
  | some fault => .error fault
  | none =>
      match ofEntries type es with
      | .valid record => .ok record
      | .invalid first rest => .error (.invalidRecord type.title (first :: rest))

/-- The record after a field was changed, as a document.  The new value is not judged. -/
def assign (record : Record) (field : String) (v : Value) : Except Fault Value :=
  let subject := "\"" ++ record.type.title ++ "\""
  if (record.document.get? field).isNone then
    .error (.plain .value [.text (subject ++ " object has no field \"" ++ field ++ "\"")])
  else if record.type.isFrozen then
    .error (.mismatch (subject ++ " is immutable and does not support item assignment"))
  else .ok (record.document.set field v)

/-- Records are equal when they are of one type and all their fields are. -/
def equal (a b : Record) : Bool := a.type == b.type && a.document.same b.document

end Record

end CacheSteward
