import CacheSteward.Service

namespace CacheSteward.Rehearsal

/-! Scripts for rehearsing operations against a control plane that only exists in memory.

A script says, for every method, how its calls go one after another.  A call may run further
operations before it answers, so scripts and operations are nested in each other.
-/

inductive Reply where
  | fail (fault : Fault)
  | give (result : Value)
  /-- Null, and nothing is changed. -/
  | nothing
  | usual

mutual

inductive Operation where
  | create (desired : Value) (timeout : Option Amount)
  | read (instanceId : Value)
  | adopt (instanceId : Value)
  /-- On the handle of the given detail, or else on the one kept for the id. -/
  | reconcile (instanceId desired : Value) (detail : Option Value) (timeout : Option Amount)
  | delete (instanceId : Value) (timeout : Option Amount)
  | pending (instanceId : Value)
  /-- Runs one step outside a reconciliation; the step itself may be malformed. -/
  | runStep (step : Except Fault Step) (timeout interval : Amount)
  /-- Holds an instance while further operations run. -/
  | claim (instanceId : Value) (operations : List Operation)
  | patch (instanceId : Value) (entries : List (Value × Value))
  | drop (instanceId : Value)
  | extend (script : List (RemoteCall.Method × List Cue))

/-- How one call goes: the time it takes, the changes to instances, the operations that run during
it, and its answer. -/
inductive Cue where
  | mk (takes : Amount) (set : List (Value × List (Value × Value)))
      (unset : List (Value × List String)) (drop : List Value) (nested : List Operation)
      (reply : Reply)

end

def Cue.plain : Cue := .mk (.whole 0) [] [] [] [] .usual

abbrev Script := List (RemoteCall.Method × List Cue)

mutual

/-- How many claims and cues there are, at any depth.  Every level at which operations run inside
others takes one of them. -/
def Operation.nesting : Operation → Nat
  | .claim _ operations => 1 + nestingOfAll operations
  | .extend script => nestingOfScript script
  | _ => 0

def Cue.nesting : Cue → Nat
  | .mk _ _ _ _ nested _ => 1 + nestingOfAll nested

def nestingOfAll : List Operation → Nat
  | [] => 0
  | operation :: rest => operation.nesting + nestingOfAll rest

def nestingOfCues : List Cue → Nat
  | [] => 0
  | cue :: rest => cue.nesting + nestingOfCues rest

def nestingOfScript : List (RemoteCall.Method × List Cue) → Nat
  | [] => 0
  | (_, cues) :: rest => nestingOfCues cues + nestingOfScript rest

end

namespace Script

def next (method : RemoteCall.Method) : Script → Cue × Script
  | [] => (.plain, [])
  | (key, cues) :: rest =>
      if key = method then
        match cues with
        | cue :: later => (cue, (key, later) :: rest)
        | [] => (.plain, (key, []) :: rest)
      else
        let (cue, rest) := next method rest
        (cue, (key, cues) :: rest)

def add (method : RemoteCall.Method) (cues : List Cue) : Script → Script
  | [] => [(method, cues)]
  | (key, earlier) :: rest =>
      if key = method then (key, earlier ++ cues) :: rest
      else (key, earlier) :: add method cues rest

def append (script more : Script) : Script :=
  more.foldl (fun script (method, cues) => script.add method cues) script

end Script

end CacheSteward.Rehearsal
