import CacheSteward.Instance.Kind
import CacheSteward.Timescale

namespace CacheSteward

/-! How long an operation may take and how often it looks.

A budget is accepted only when neither of its times is zero or below.  Times that compare with
nothing, such as not-a-number, pass; they fail where a number of attempts is computed from them.
-/

variable {τ : Type} [Timescale τ]

/-- The time one operation may take and the interval between its attempts or polls. -/
structure Budget (τ : Type) where
  timeout : τ
  interval : τ

namespace Budget

def notPositive (name : String) (given : τ) : Fault :=
  .configuration (name ++ " must be positive, got " ++ Timescale.text given) (some name)

def make (timeout interval : τ) : Except Fault (Budget τ) :=
  if Timescale.atMost timeout (Timescale.zero : τ) then .error (notPositive "timeout" timeout)
  else if Timescale.atMost interval (Timescale.zero : τ) then
    .error (notPositive "poll_interval" interval)
  else .ok ⟨timeout, interval⟩

/-- As `make`, polling every ten seconds where no interval is given. -/
def ofTimes (timeout : Amount) (interval : Option Amount) : Except Fault (Budget Amount) :=
  make timeout (interval.getD (.real 10.0))

def maxAttempts (budget : Budget τ) : Except Fault Nat :=
  Timescale.attempts budget.timeout budget.interval

/-- What is left after `elapsed`, and zero once the timeout has passed. -/
def remaining (budget : Budget τ) (elapsed : τ) : τ :=
  let rest := Timescale.minus budget.timeout elapsed
  if Timescale.less rest (Timescale.zero : τ) then Timescale.zero else rest

end Budget

/-- The configured timeout of every kind of operation, and the interval they share. -/
structure Timeouts (τ : Type) where
  create : τ
  update : τ
  delete : τ
  read : τ
  interval : τ

namespace Timeouts

/-- Every mutation of an existing instance is an update. -/
def timeoutOf (timeouts : Timeouts τ) : OperationKind → τ
  | .create => timeouts.create
  | .read => timeouts.read
  | .delete => timeouts.delete
  | _ => timeouts.update

def budget (timeouts : Timeouts τ) (kind : OperationKind) (timeout : Option τ) :
    Except Fault (Budget τ) :=
  Budget.make (timeout.getD (timeouts.timeoutOf kind)) timeouts.interval

/-- Twenty minutes to create or delete, thirty to update, one to read, polling every ten
seconds. -/
def standard : Timeouts Amount :=
  ⟨.whole 1200, .whole 1800, .whole 1200, .whole 60, .real 10.0⟩

def document (timeouts : Timeouts τ) : Value :=
  .fields [("create_timeout", Timescale.value timeouts.create),
    ("update_timeout", Timescale.value timeouts.update),
    ("delete_timeout", Timescale.value timeouts.delete),
    ("read_timeout", Timescale.value timeouts.read),
    ("poll_interval", Timescale.value timeouts.interval)]

end Timeouts

end CacheSteward
