import CacheSteward.Fault
import CacheSteward.Instance.Kind
import CacheSteward.Record.Field

namespace CacheSteward

/-! Single mutations of an instance, and the check that one has taken effect. -/

structure Step where
  kind : OperationKind
  instanceId : String
  params : List (String × Value)

/-- What a detail document shows once a mutation has taken effect. -/
structure AppliedCheck where
  detailKey : String
  expected : Value

namespace AppliedCheck

/-- A missing entry counts as null. -/
def holds (check : AppliedCheck) (detail : Value) : Bool :=
  (detail.getOrNull check.detailKey).same check.expected

def holdsIn (check : AppliedCheck) (detail : Value) : Except Fault Bool :=
  match detail with
  | .mapping _ => .ok (check.holds detail)
  | v => .error (.noSuchPart v "get")

end AppliedCheck

namespace Step

def title : String := "ReconcileStep"

/-- Where a mutation shows in a detail document, and the parameter that it takes there. -/
def detailKey? : OperationKind → Option (String × String)
  | .rename => some ("instanceName", "instance_name")
  | .resizeNodeType => some ("nodeType", "node_type")
  | .resizeShardNum => some ("shardNum", "shard_num")
  | _ => none

def param (step : Step) (name : String) : Except Fault Value :=
  match step.params.lookup name with
  | some v => .ok v
  | none => .error (.plain .key [.text name])

/-- Details are compared as they are: a number is no text. -/
def appliedCheck (step : Step) : Except Fault AppliedCheck :=
  match detailKey? step.kind with
  | none => .error (.unknownMember step.kind)
  | some (detailKey, name) => (step.param name).map fun expected => ⟨detailKey, expected⟩

def changes (params : List (String × Value)) : String :=
  Value.commaSeparated (params.map fun (name, v) => name ++ "=" ++ v.shown)

def describe (step : Step) : String := step.kind.word ++ "(" ++ changes step.params ++ ")"

def document (step : Step) : Value :=
  .fields [("kind", .text step.kind.word), ("instance_id", .text step.instanceId),
    ("params", .fields step.params)]

def ofEntries (es : List (Value × Value)) : Checked Step :=
  Step.mk <$> Field.required "kind" Field.member es <*>
    Field.required "instance_id" Field.text es <*>
    Field.orElse "params" [] Field.anyEntries es

end Step

end CacheSteward
