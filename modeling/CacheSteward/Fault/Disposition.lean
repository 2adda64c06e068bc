import CacheSteward.Fault
import CacheSteward.Instance.Kind

namespace CacheSteward

/-! What a failure means for the operation that met it.

A failure is classified first, the class is then resolved for the kind of operation, and the failure
is recast as a known fault.  A fault that is known already keeps its meaning.
-/

inductive Disposition where
  | transient
  | conflictState
  | notFound
  | fatal
deriving Repr, DecidableEq

inductive Resolution where
  | success
  | retry
  | fail
deriving Repr, DecidableEq

namespace Disposition

def word : Disposition → String
  | .transient => "transient"
  | .conflictState => "conflict_state"
  | .notFound => "not_found"
  | .fatal => "fatal"

def ofWord? (s : String) : Option Disposition :=
  [transient, conflictState, notFound, fatal].find? (·.word == s)

end Disposition

def Resolution.word : Resolution → String
  | .success => "success"
  | .retry => "retry"
  | .fail => "fail"

def ErrorCode.disposition : ErrorCode → Disposition
  | .transientRemote => .transient
  | .conflictState => .conflictState
  | .instanceNotFound => .notFound
  | _ => .fatal

namespace Fault

def notFoundCodes : List String := ["InstanceNotExist", "ResourceNotFound"]

/-- The class of a failure that the control plane reported.  A release may be refused while an
earlier one is still settling, so for a delete that refusal passes with time. -/
def remoteDisposition (code : String) (status : Option Amount) (kind : OperationKind) :
    Disposition :=
  let status := status.getD (.whole 0)
  if code == "InternalError" || Amount.atMost (.whole 500) status then .transient
  else if kind = .delete ∧ code = "ReleaseInstanceFailed" then .transient
  else if code == "InvalidInstanceStatus" then .conflictState
  else if notFoundCodes.contains code || status.equal (.whole 404) then .notFound
  else .fatal

/-- What a failure of an operation means. -/
def disposition (fault : Fault) (kind : OperationKind) : Disposition :=
  match fault with
  | .known about _ _ _ => about.code.disposition
  | .remote code _ status _ => remoteDisposition code status kind
  | .plain sort _ => if sort.isConnection || sort == .timeout then .transient else .fatal
  | .unlisted _ _ => .fatal
  | .invalidRecord _ _ => .fatal

theorem operationDetails_word (kind : OperationKind) (instanceId : Value) :
    operationDetails (some kind.word) instanceId =
      ("operation", .text kind.word) ::
        if instanceId.isGiven then [("instance_id", instanceId)] else [] := by
  cases kind <;> rfl

/-- Details of a known fault that say where it happened, added unless they are there. -/
def locate (operation : OperationKind) (instanceId : Value)
    (details : List (String × Value)) : List (String × Value) :=
  let details := addDetail "operation" (.text operation.word) details
  if instanceId.isGiven then addDetail "instance_id" instanceId details else details

def recast (fault : Fault) (disposition : Disposition) (kind : OperationKind)
    (instanceId : Value) : Fault :=
  match fault with
  | .known about message details cause =>
      .known about message (locate kind instanceId details) cause
  | raw =>
      match disposition with
      | .transient => .transientRemote
          ("Transient failure during " ++ kind.word ++ ": " ++ raw.text) (some kind.word)
          instanceId (some raw)
      | .conflictState => .conflictState
          ("Instance status does not allow " ++ kind.word ++ ": " ++ raw.text) (some kind.word)
          instanceId (some raw)
      | .notFound => .instanceNotFound instanceId (some kind.word) (some raw)
      | .fatal => .remoteOperation
          ("Remote " ++ kind.word ++ " failed: " ++ raw.text) (some kind.word) instanceId
          (some raw)

/-- The details of a general fault, when there are any, are shared with whoever raised it: what one
recast adds to them is there for the next.  All other faults start afresh. -/
def afterRecast (fault known : Fault) : Fault :=
  match fault with
  | .known (.general _) _ (_ :: _) _ => known
  | fault => fault

/-- One failure classified and recast for several kinds of operations in turn. -/
def recasts (fault : Fault) (instanceId : Value) :
    List OperationKind → List (OperationKind × Disposition × Fault)
  | [] => []
  | kind :: rest =>
      let disposition := fault.disposition kind
      let known := fault.recast disposition kind instanceId
      (kind, disposition, known) ::
        (fault.afterRecast known).recasts instanceId rest

end Fault

/-- How an operation reacts to a failure of a class.  A delete of what is gone or going is done, and
for a read a missing instance is an answer. -/
def Disposition.resolve (disposition : Disposition) (kind : OperationKind) : Resolution :=
  match disposition, kind with
  | .transient, _ => .retry
  | .conflictState, .delete => .success
  | .notFound, .delete => .success
  | .notFound, .read => .success
  | _, _ => .fail

theorem Disposition.resolve_eq_retry_iff {disposition : Disposition} {kind : OperationKind} :
    disposition.resolve kind = .retry ↔ disposition = .transient := by
  cases disposition <;> cases kind <;> decide

theorem Disposition.delete_or_read_of_resolve_eq_success {disposition : Disposition}
    {kind : OperationKind} (resolved : disposition.resolve kind = .success) :
    kind = .delete ∨ kind = .read := by
  revert resolved
  cases disposition <;> cases kind <;> decide

end CacheSteward
