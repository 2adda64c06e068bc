import CacheSteward.Fault
import CacheSteward.Instance.Kind
import CacheSteward.Record.Field

namespace CacheSteward

/-! Operations that have been issued and have not converged yet. -/

/-- An operation in flight.  Every attempt of it carries the same client token. -/
structure PendingOperation (τ : Type) where
  kind : OperationKind
  /-- Unknown until a create has returned. -/
  instanceId : Option String
  clientToken : String
  timeout : τ

structure IssuedOperation where
  operation : PendingOperation Float
  issuedAt : Option Moment

namespace PendingOperation

def title : String := "PendingOperation"

def readTimeout (v : Value) : Checked Float :=
  (Field.real v).ensure (fun x => x > 0.0) (.above 0)

end PendingOperation

namespace IssuedOperation

/-- Numbers further from zero than this count in thousandths. -/
def secondsLimit : Float := 2.0e10

/-- Numbers beyond this name the ends of the calendar. -/
def momentLimit : Float := 3.0e20

def epoch : Moment := ⟨⟨1970, 1, 1⟩, 0, 0, 0, 0, some 0⟩

/-- Divides by a thousand until the limit is met; seven divisions bring any number within
`momentLimit` below it. -/
def scaleDown : Nat → Float → Float
  | 0, x => x
  | steps + 1, x => if x.abs > secondsLimit then scaleDown steps (x / 1000.0) else x

/-- The moment a number of seconds after the start of 1970, in universal time. -/
def momentOfSeconds (x : Float) : Checked Moment :=
  if x > momentLimit then .valid ⟨⟨9999, 12, 31⟩, 23, 59, 59, 999999, none⟩
  else if x < -momentLimit then .valid ⟨⟨1, 1, 1⟩, 0, 0, 0, 0, none⟩
  else
    match epoch.addSeconds (scaleDown 7 x) with
    | .ok moment => .valid moment
    | .error _ => .fail (.custom "cannot convert float NaN to integer")

def readMoment (v : Value) : Checked Moment :=
  match v with
  | .null => .fail .nullNotAllowed
  | .moment moment => .valid moment
  | .text s =>
      match Decimal.readReal? s with
      | some x => momentOfSeconds x
      | none =>
          match Moment.read? s with
          | some moment => .valid moment
          | none => .fail .moment
  | _ =>
      match v.amount? with
      | some a => momentOfSeconds a.toFloat
      | none => .fail .momentKind

def ofEntries (es : List (Value × Value)) : Checked IssuedOperation :=
  (fun kind instanceId clientToken timeout issuedAt =>
    ⟨⟨kind, instanceId, clientToken, timeout⟩, issuedAt⟩) <$>
    Field.required "kind" Field.member es <*>
    Field.optional "instance_id" Field.text es <*>
    Field.required "client_token" Field.text es <*>
    Field.required "timeout" PendingOperation.readTimeout es <*>
    Field.orElse "issued_at" none (fun v => (readMoment v).map some) es

/-- A budget that is an integer beyond every double cannot even be judged. -/
def timeoutFault? (es : List (Value × Value)) : Option Fault :=
  match Value.lookup "timeout" es with
  | some (.whole n) =>
      match Decimal.ceiling? (Decimal.nearestWhole n) with
      | some _ => none
      | none => some .wholeTooLarge
  | _ => none

def document (issued : IssuedOperation) : Value :=
  .fields [("kind", .text issued.operation.kind.word),
    ("instance_id", .ofText? issued.operation.instanceId),
    ("client_token", .text issued.operation.clientToken),
    ("timeout", .real issued.operation.timeout),
    ("issued_at", (issued.issuedAt.map Value.moment).getD .null)]

def spanFault : Moment.SpanFault → Fault
  | .undefined => .plain .value [.text "cannot convert float NaN to integer"]
  | .infinite => .plain .overflow [.text "cannot convert float infinity to integer"]
  | .beyondWord => .plain .overflow [.text "Python int too large to convert to C int"]
  | .tooManyDays days => .plain .overflow
      [.text ("days=" ++ toString days ++ "; must have magnitude <= 999999999")]
  | .outOfCalendar => .plain .overflow [.text "date value out of range"]

def deadline? (issued : IssuedOperation) : Option (Except Fault Moment) :=
  issued.issuedAt.map fun moment =>
    (moment.addSeconds issued.operation.timeout).mapError spanFault

end IssuedOperation

end CacheSteward
