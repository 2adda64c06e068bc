import CacheSteward.Command.Outcome
import CacheSteward.Spec

namespace CacheSteward.Command

/-! Checking a desired configuration. -/

def validReport (name : String) (spec : DesiredSpec) : String :=
  "✅ " ++ name ++ " is valid\n" ++
  "   Instance: " ++ spec.instanceName ++ "\n" ++
  "   Topology: " ++ spec.clusterType.word ++ "\n" ++
  "   Node Type: " ++ spec.nodeType ++ "\n" ++
  "   Shards: " ++ toString spec.shardNum ++ "\n"

def validate (name : String) (desired : Except Fault Value) : Outcome :=
  match desired.bind DesiredSpec.ofConfig with
  | .ok spec => .success (validReport name spec)
  | .error fault =>
      outcomeOf (fun fault => .aborted ("❌ Invalid desired spec: " ++ fault.text)) fault

end CacheSteward.Command
