import CacheSteward.Budget
import CacheSteward.Fault.Disposition
import CacheSteward.Session

namespace CacheSteward

/-! One remote action under a bounded retry loop.

Only transient failures are repeated, one interval apart, and never more often than the budget
allows.  The next attempt has to start while the elapsed time is still under the timeout.
-/

variable {τ ω : Type}

inductive Attempt where
  | done (result : Value)
  | retryable (fault : Fault)
  | fatal (fault : Fault)

structure Action (τ : Type) where
  kind : OperationKind
  budget : Budget τ
  /-- Null while the instance is not known. -/
  instanceId : Value
  /-- For the log only; the calls carry their token themselves. -/
  clientToken : Option String

namespace Action

def extras (action : Action τ) : List (String × Value) :=
  [("instance_id", action.instanceId), ("operation", .text action.kind.word),
    ("client_token", .ofText? action.clientToken)]

def record (action : Action τ) (level : LogLevel) (message : String) : LogRecord :=
  { level, channel := .retry, message, extras := action.extras }

/-- What an outcome means: a result, a reason to try again, or the end. -/
def judge (action : Action τ) : Except Fault Value → Attempt
  | .ok result => .done result
  | .error raw =>
      let disposition := raw.disposition action.kind
      let fault := raw.recast disposition action.kind action.instanceId
      match disposition.resolve action.kind with
      | .success => .done .null
      | .retry => .retryable fault
      | .fail => .fatal fault

/-- A failure that counts as success leaves a trace in the log. -/
def remarks (action : Action τ) : Except Fault Value → List LogRecord
  | .ok _ => []
  | .error raw =>
      match (raw.disposition action.kind).resolve action.kind with
      | .success =>
          [{ level := .info
             channel := .retry
             message := action.kind.word ++ " of instance " ++ action.instanceId.shown ++
               " treated as done: " ++ raw.text
             extras := [("instance_id", action.instanceId),
               ("operation", .text action.kind.word)] }]
      | _ => []

/-- One attempt: its result, or the transient failure after which another one may follow.
`attempts` counts those made before. -/
def attempt (action : Action τ) (call : Run τ ω (Except Fault Value)) (attempts : Nat) :
    Run τ ω (Except Fault Value) := do
  let outcome ← call
  (action.remarks outcome).forM Run.log
  match action.judge outcome with
  | .done result =>
      if attempts > 0 then
        Run.log (action.record .info (action.kind.word ++ " succeeded after " ++
          toString (attempts + 1) ++ " attempts"))
      return .ok result
  | .fatal fault =>
      Run.log (action.record .error (action.kind.word ++ " failed on attempt " ++
        toString (attempts + 1) ++ ": " ++ fault.text))
      Run.fail fault
  | .retryable fault => return .error fault

variable [Timescale τ]

def exhausted (action : Action τ) (elapsed : τ) (cause : Fault) : Fault :=
  .operationTimeout
    (action.kind.word ++ " did not succeed within " ++
      Timescale.wholeText action.budget.timeout ++ " seconds")
    (Timescale.value elapsed) (Timescale.roundedValue elapsed) (some action.kind.word)
    action.instanceId none (some cause)

/-- Whether another attempt would start too late. -/
def isOver (action : Action τ) (elapsed : τ) : Bool :=
  Timescale.atMost action.budget.timeout (Timescale.plus elapsed action.budget.interval)

def giveUp {α : Type} (action : Action τ) (attempts : Nat) (elapsed : τ) (cause : Fault) :
    Run τ ω α := do
  Run.ofExcept (Timescale.showable action.budget.timeout)
  Run.log (action.record .error ("All " ++ toString attempts ++ " attempts of " ++
    action.kind.word ++ " failed within " ++ Timescale.wholeText action.budget.timeout ++
    " seconds"))
  Run.fail (action.exhausted elapsed cause)

def pause (surroundings : Surroundings τ ω) (action : Action τ) (attempts : Nat)
    (cause : Fault) : Run τ ω Unit := do
  Run.ofExcept (Timescale.showable action.budget.interval)
  Run.log (action.record .warning ("Attempt " ++ toString attempts ++ " of " ++
    action.kind.word ++ " failed: " ++ cause.text ++ ". Retrying in " ++
    Timescale.hundredthsText action.budget.interval ++ " seconds..."))
  Run.sleep surroundings action.budget.interval

/-- Tries the action until it ends.  `attempts` counts the attempts made so far and `left` those
that may still follow the next one. -/
def tryFrom (surroundings : Surroundings τ ω) (call : Run τ ω (Except Fault Value))
    (action : Action τ) (start : τ) (limit : Except Fault Nat) (attempts left : Nat) :
    Run τ ω Value := do
  match ← action.attempt call attempts with
  | .ok result => return result
  | .error cause =>
      let elapsed ← Run.elapsed surroundings start
      discard (Run.ofExcept limit)
      match left with
      | 0 => giveUp action (attempts + 1) elapsed cause
      | left + 1 =>
          if action.isOver elapsed then giveUp action (attempts + 1) elapsed cause
          else
            action.pause surroundings (attempts + 1) cause
            tryFrom surroundings call action start limit (attempts + 1) left

/-- Tries an action until it succeeds, fails for good, or its budget runs out.  The number of
attempts matters only once an attempt has failed; that it cannot be computed shows only then. -/
def perform (surroundings : Surroundings τ ω) (action : Action τ)
    (call : Run τ ω (Except Fault Value)) : Run τ ω Value := do
  let start ← Run.now surroundings
  let limit := action.budget.maxAttempts
  let most := match limit with
    | .ok most => most
    | .error _ => 1
  tryFrom surroundings call action start limit 0 (most - 1)

end Action

end CacheSteward
