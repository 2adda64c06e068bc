import CacheSteward.Document
import CacheSteward.Value.Json

namespace CacheSteward.Command

/-! What running a command comes to. -/

structure Outcome where
  exit : Nat
  out : String := ""
  err : String := ""
deriving Repr, DecidableEq

namespace Outcome

def success (out : String) : Outcome := { exit := 0, out }

def aborted (explanation : String) : Outcome :=
  { exit := 1, err := explanation ++ "\nAborted!\n" }

def crashed (message : String) : Outcome := { exit := 1, err := "❌ Error: " ++ message ++ "\n" }

def misused (report : String) : Outcome := { exit := 2, err := report }

end Outcome

/-- Commands explain known faults and documents that are not well formed. -/
def isExplained : Fault → Bool
  | .known _ _ _ _ => true
  | .plain .document _ => true
  | _ => false

def outcomeOf (explain : Fault → Outcome) (fault : Fault) : Outcome :=
  if isExplained fault then explain fault else .crashed fault.text

/-- A document of a value; one that has no such form crashes the command. -/
def jsonOr (write : String → Outcome) (v : Value) : Outcome :=
  match v.jsonIndented with
  | .ok text => write text
  | .error reason => .crashed reason.message

end CacheSteward.Command
