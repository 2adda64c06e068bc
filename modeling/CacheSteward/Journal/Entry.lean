import CacheSteward.Journal
import CacheSteward.Journal.Template

namespace CacheSteward

/-! Log entries as they are written: one JSON object a line.

An entry says when, how urgent, who and what, then where in the program, then what the record is
about as far as it says so, and last the failure that it reports.
-/

def levelName (level : Int) : String :=
  if level = 50 then "CRITICAL"
  else if level = 40 then "ERROR"
  else if level = 30 then "WARNING"
  else if level = 20 then "INFO"
  else if level = 10 then "DEBUG"
  else if level = 0 then "NOTSET"
  else "Level " ++ toString level

structure LogEntry where
  level : Int
  logger : String
  message : String
  source : String
  function : Option String
  line : Int
  instanceId : Option Value
  operation : Option Value
  step : Option Value
  clientToken : Option Value
  failure : Option String

namespace LogEntry

def subject (entry : LogEntry) : List (String × Value) :=
  LogRecord.extraNames.zip [entry.instanceId, entry.operation, entry.step, entry.clientToken]
    |>.filterMap fun (name, given) => given.map (name, ·)

def fields (entry : LogEntry) : List (String × Value) :=
  [("level", .text (levelName entry.level)), ("logger", .text entry.logger),
    ("message", .text entry.message), ("module", .text entry.source),
    ("function", .ofText? entry.function), ("line", .whole entry.line)] ++
  entry.subject ++
  (match entry.failure with | some text => [("exception", .text text)] | none => [])

def document (entry : LogEntry) : Value := .fields entry.fields

def written (timestamp : String) (entry : LogEntry) : Except Value.JsonFault String :=
  (Value.fields (("timestamp", .text timestamp) :: entry.fields)).jsonLine

end LogEntry

/-- The last part of a path, without its extension.  Points in front of a name start none. -/
def sourceOfPath (path : String) : String :=
  let backward := path.toList.reverse.takeWhile (· != '/')
  match backward.dropWhile (· != '.') with
  | '.' :: stem => if stem.all (· == '.') then String.ofList backward.reverse
      else String.ofList stem.reverse
  | _ => String.ofList backward.reverse

def Fault.fullTitle (fault : Fault) : String :=
  match fault with
  | .known _ _ _ _ => "scs_ops_agent.exceptions." ++ fault.title
  | .remote _ _ _ _ => "scs_ops_agent.clients.base." ++ fault.title
  | .plain .variant _ => "pydantic.errors." ++ fault.title
  | .invalidRecord _ _ => "pydantic.error_wrappers." ++ fault.title
  | .plain _ _ => fault.title
  | .unlisted _ _ => fault.title

def Fault.summary (fault : Fault) : String :=
  if fault.text.isEmpty then fault.fullTitle else fault.fullTitle ++ ": " ++ fault.text

/-- A record as a program hands it over, its message not yet put together. -/
structure LogCall where
  level : Int
  logger : String
  path : String
  function : Option String
  line : Int
  template : Value
  args : List Value
  extras : List (String × Value)
  failure : Option Fault

namespace LogCall

def entry (call : LogCall) : Except Fault LogEntry :=
  (Template.fill call.template.shown call.args).map fun message =>
    { level := call.level
      logger := call.logger
      message
      source := sourceOfPath call.path
      function := call.function
      line := call.line
      instanceId := call.extras.lookup "instance_id"
      operation := call.extras.lookup "operation"
      step := call.extras.lookup "step"
      clientToken := call.extras.lookup "client_token"
      failure := call.failure.map Fault.summary }

end LogCall

end CacheSteward
