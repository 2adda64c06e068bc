import CacheSteward.Value.Json

namespace CacheSteward

/-! What is written down while operations run: log records and the audit trail. -/

inductive LogLevel where
  | debug
  | info
  | warning
  | error
deriving Repr, DecidableEq

def LogLevel.name : LogLevel → String
  | .debug => "DEBUG"
  | .info => "INFO"
  | .warning => "WARNING"
  | .error => "ERROR"

inductive LogChannel where
  | service
  | waiter
  | retry
  | audit
deriving Repr, DecidableEq

def LogChannel.name : LogChannel → String
  | .service => "scs_ops_agent.services.reconciler"
  | .waiter => "scs_ops_agent.services.waiter"
  | .retry => "scs_ops_agent.utils.retry"
  | .audit => "scs_ops_agent.audit"

structure LogRecord where
  level : LogLevel
  channel : LogChannel
  message : String
  extras : List (String × Value) := []

namespace LogRecord

/-- The names under which a record can say what it is about, in the order in which they are
written. -/
def extraNames : List String := ["instance_id", "operation", "step", "client_token"]

end LogRecord

/-- An entry of the audit trail.  Details that are empty are left out. -/
structure AuditEntry where
  instanceId : Value
  event : String
  details : Value := .null
  failed : Bool := false

namespace AuditEntry

/-- Who an entry is about before an instance has an id. -/
def unassigned : String := "unassigned"

def detailsText (details : Value) : String :=
  match details.jsonLine with
  | .ok text => text
  | .error _ => details.shown

def record (entry : AuditEntry) : LogRecord :=
  let subject := if entry.instanceId.isGiven then entry.instanceId else .text unassigned
  { level := if entry.failed then .error else .info
    channel := .audit
    message := "Reconciliation event: " ++ entry.event ++ " for instance " ++ subject.shown ++
      (if entry.details.isGiven then " - Details: " ++ detailsText entry.details else "")
    extras := [("instance_id", subject), ("operation", .text entry.event)] }

end AuditEntry

end CacheSteward
