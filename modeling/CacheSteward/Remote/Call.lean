import CacheSteward.Instance.Kind
import CacheSteward.Value

namespace CacheSteward

/-! Calls to the control plane. -/

inductive RemoteCall where
  | createInstance (args : Value) (clientToken : String)
  | getInstanceDetail (instanceId : Value)
  | updateInstanceName (instanceId name : Value) (clientToken : String)
  | resizeNodeType (instanceId nodeType : Value)
  | resizeShardNum (instanceId shardNum : Value)
  | deleteInstance (instanceId : Value) (clientToken : String)
deriving DecidableEq

namespace RemoteCall

/-- The methods of the control plane; both resizes are one method. -/
inductive Method where
  | createInstance
  | getInstanceDetail
  | updateInstanceName
  | resizeInstance
  | deleteInstance
deriving Repr, DecidableEq

def Method.name : Method → String
  | .createInstance => "create_instance"
  | .getInstanceDetail => "get_instance_detail"
  | .updateInstanceName => "update_instance_name"
  | .resizeInstance => "resize_instance"
  | .deleteInstance => "delete_instance"

def Method.all : List Method :=
  [.createInstance, .getInstanceDetail, .updateInstanceName, .resizeInstance, .deleteInstance]

def Method.ofName? (name : String) : Option Method := all.find? (·.name == name)

def method : RemoteCall → Method
  | .createInstance _ _ => .createInstance
  | .getInstanceDetail _ => .getInstanceDetail
  | .updateInstanceName _ _ _ => .updateInstanceName
  | .resizeNodeType _ _ => .resizeInstance
  | .resizeShardNum _ _ => .resizeInstance
  | .deleteInstance _ _ => .deleteInstance

def instanceId? : RemoteCall → Option Value
  | .createInstance _ _ => none
  | .getInstanceDetail instanceId => some instanceId
  | .updateInstanceName instanceId _ _ => some instanceId
  | .resizeNodeType instanceId _ => some instanceId
  | .resizeShardNum instanceId _ => some instanceId
  | .deleteInstance instanceId _ => some instanceId

/-- Everything but a read changes something. -/
def isMutation : RemoteCall → Bool
  | .getInstanceDetail _ => false
  | _ => true

def clientToken? : RemoteCall → Option String
  | .createInstance _ clientToken => some clientToken
  | .updateInstanceName _ _ clientToken => some clientToken
  | .deleteInstance _ clientToken => some clientToken
  | _ => none

def args : RemoteCall → List Value
  | .createInstance args clientToken => [args, .text clientToken]
  | .getInstanceDetail instanceId => [instanceId]
  | .updateInstanceName instanceId name clientToken => [instanceId, name, .text clientToken]
  | .resizeNodeType instanceId nodeType => [instanceId, nodeType, .null]
  | .resizeShardNum instanceId shardNum => [instanceId, .null, shardNum]
  | .deleteInstance instanceId clientToken => [instanceId, .text clientToken]

end RemoteCall

end CacheSteward
