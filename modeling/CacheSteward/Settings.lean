import CacheSteward.Budget
import CacheSteward.Decimal.Reading

namespace CacheSteward

/-! Settings taken from environment variables. -/

structure LogSettings where
  /-- The name of a level.  Nothing checks it before the log is set up. -/
  level : Value := .text "INFO"
  format : String := "%(asctime)s - %(name)s - %(levelname)s - %(message)s"
  filePath : Option String := none
  maxFileSize : Int := 10485760
  backupCount : Int := 5

namespace LogSettings

def document (settings : LogSettings) : Value :=
  .fields [("level", settings.level), ("format", .text settings.format),
    ("file_path", .ofText? settings.filePath), ("max_file_size", .whole settings.maxFileSize),
    ("backup_count", .whole settings.backupCount)]

end LogSettings

structure Settings where
  logging : LogSettings
  timeouts : Timeouts Amount

namespace Settings

def seconds (environment : List (String × String)) (key : String) (default : Amount) :
    Except Fault Amount :=
  match environment.lookup key with
  | none => .ok default
  | some raw =>
      match Decimal.readReal? raw with
      | none => .error (.configuration
          (key ++ " must be a number of seconds, got '" ++ raw ++ "'") (some key))
      | some x =>
          if x ≤ 0.0 then .error (.configuration
            (key ++ " must be positive, got " ++ (Amount.real x).text) (some key))
          else .ok (.real x)

/-- The first variable that cannot be used is the one reported. -/
def ofEnvironment (environment : List (String × String)) : Except Fault Settings := do
  let defaults := Timeouts.standard
  let logging : LogSettings :=
    { level := .text ((environment.lookup "LOG_LEVEL").getD "INFO")
      filePath := environment.lookup "LOG_FILE_PATH" }
  let create ← seconds environment "SCS_CREATE_TIMEOUT" defaults.create
  let update ← seconds environment "SCS_UPDATE_TIMEOUT" defaults.update
  let delete ← seconds environment "SCS_DELETE_TIMEOUT" defaults.delete
  let read ← seconds environment "SCS_READ_TIMEOUT" defaults.read
  let interval ← seconds environment "SCS_POLL_INTERVAL" defaults.interval
  return ⟨logging, ⟨create, update, delete, read, interval⟩⟩

end Settings

end CacheSteward
