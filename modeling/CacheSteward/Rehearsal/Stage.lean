import CacheSteward.Rehearsal.Script
import CacheSteward.Text.Quoted

namespace CacheSteward.Rehearsal

/-! The control plane of a rehearsal: instances in memory, a script, and a clock that moves only by
what calls take and by sleeping. -/

mutual

inductive Outcome where
  | handle (handle : InstanceHandle)
  | absent
  | reconciled (result : Reconciled)
  | noHandle
  | status (status : InstanceStatus)
  | pending (operation : Option (PendingOperation Amount))
  | reports (reports : List Report)
  | nothing

/-- What could be seen of one operation.  `nested` are the reports of operations that ran inside its
calls, in the order in which they ended; their events are among `events` too.  `logs` are the
records since the report before. -/
inductive Report where
  | mk (result : Except Halt Outcome) (events : List (Event Amount)) (now : Amount)
      (held : List Value) (nested : List Report) (logs : List LogRecord)

end

structure Stage where
  instances : List (Value × Value) := []
  createId : Value := .text "scs-1"
  script : Script := []
  clock : Amount := .real 0.0
  kept : List (String × InstanceHandle) := []
  reports : List Report := []
  reported : Nat := 0

namespace Stage

def instance? (stage : Stage) (instanceId : Value) : Option Value :=
  (stage.instances.find? fun (key, _) => key.same instanceId).map Prod.snd

def patch (stage : Stage) (instanceId : Value) (entries : List (Value × Value)) : Stage :=
  let before := match stage.instance? instanceId with
    | some (.mapping es) => es
    | _ => []
  { stage with
    instances := Value.put instanceId (.mapping (Value.merge entries before)) stage.instances }

def unset (stage : Stage) (instanceId : Value) (keys : List String) : Stage :=
  match stage.instance? instanceId with
  | some detail =>
      { stage with
        instances := Value.put instanceId (keys.foldl (fun d key => Value.unset key d) detail)
          stage.instances }
  | none => stage

def drop (stage : Stage) (instanceId : Value) : Stage :=
  { stage with instances := stage.instances.filter fun (key, _) => !key.same instanceId }

def keep (stage : Stage) (handle : InstanceHandle) : Stage :=
  { stage with
    kept := (handle.instanceId, handle) :: stage.kept.filter (·.1 != handle.instanceId) }

def follow (stage : Stage) (takes : Amount) (set : List (Value × List (Value × Value)))
    (unset : List (Value × List String)) (drop : List Value) : Stage :=
  let stage := { stage with clock := stage.clock.plus takes }
  let stage := set.foldl (fun stage (key, entries) => stage.patch key entries) stage
  let stage := unset.foldl (fun stage (key, keys) => stage.unset key keys) stage
  drop.foldl Stage.drop stage

def notExisting : Fault :=
  .remote "InstanceNotExist" "instance does not exist" (some (.whole 404)) none

def repeatedKeys : List String :=
  ["instanceName", "clusterType", "nodeType", "shardNum", "engineVersion", "port"]

def unlessNull (key : String) (v : Value) : List (Value × Value) :=
  match v with
  | .null => []
  | v => [(.text key, v)]

def perform (stage : Stage) (call : RemoteCall) : Except Fault Value × Stage :=
  match call with
  | .createInstance args _ =>
      let entries : List (Value × Value) :=
        [(.text "instanceId", stage.createId), (.text "instanceStatus", .text "Creating")] ++
        repeatedKeys.map fun key => (.text key, args.getOrNull key)
      (.ok stage.createId, stage.patch stage.createId entries)
  | .getInstanceDetail instanceId =>
      match stage.instance? instanceId with
      | some detail => (.ok detail, stage)
      | none => (.error notExisting, stage)
  | .updateInstanceName instanceId name _ =>
      (.ok .null, stage.patch instanceId (unlessNull "instanceName" name))
  | .resizeNodeType instanceId nodeType =>
      (.ok .null, stage.patch instanceId (unlessNull "nodeType" nodeType))
  | .resizeShardNum instanceId shardNum =>
      (.ok .null, stage.patch instanceId (unlessNull "shardNum" shardNum))
  | .deleteInstance _ _ => (.ok .null, stage)

def reply (stage : Stage) (call : RemoteCall) : Reply → Except Fault Value × Stage
  | .fail fault => (.error fault, stage)
  | .give result => (.ok result, stage)
  | .nothing => (.ok .null, stage)
  | .usual => stage.perform call

end Stage

/-- The token that is drawn after so many others: its number in a hexadecimal form of 32 digits. -/
def tokenAfter (drawn : Nat) : String :=
  let digits := Text.hexDigits 32 (drawn + 1)
  let part (start count : Nat) : String := String.ofList ((digits.drop start).take count)
  "-".intercalate [part 0 8, part 8 4, part 12 4, part 16 4, part 20 12]

abbrev Rehearsed := Session Amount Stage

/-- The surroundings of operations on a stage.  `inner` runs the operations of a cue. -/
def surroundings (inner : List Operation → StateM Rehearsed Unit) : Surroundings Amount Stage where
  call remoteCall := do
    let stage := (← get).world
    let (cue, script) := stage.script.next remoteCall.method
    match cue with
    | .mk takes set unset drop nested reply =>
        modify fun session =>
          { session with world := ({ stage with script }).follow takes set unset drop }
        inner nested
        modifyGet fun session =>
          let (outcome, world) := session.world.reply remoteCall reply
          (outcome, { session with world })
  now stage := (stage.clock, stage)
  sleep span stage := { stage with clock := stage.clock.plus span }
  token := tokenAfter

end CacheSteward.Rehearsal
