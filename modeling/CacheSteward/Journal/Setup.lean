import CacheSteward.Fault
import CacheSteward.Journal.Entry
import CacheSteward.Settings
import CacheSteward.Text.Capital

namespace CacheSteward

/-! Where log entries go and how urgent they have to be. -/

inductive LogSink where
  | console
  /-- A file that is put aside when it has grown to `mostSize`; so many old ones are kept. -/
  | file (path : String) (mostSize backups : Int)
deriving Repr, DecidableEq

structure LogSetup where
  /-- Records below this level are dropped unless a part of the program has a level of its own. -/
  rootLevel : Int
  sinks : List LogSink
deriving Repr, DecidableEq

namespace LogSetup

def levelWords : List (String × Int) :=
  [("CRITICAL", 50), ("FATAL", 50), ("ERROR", 40), ("WARNING", 30), ("WARN", 30), ("INFO", 20),
    ("DEBUG", 10), ("NOTSET", 0)]

/-- A name beside the levels that means the usual layout of a line. -/
def layoutWord : String := "BASIC_FORMAT"

def usualLayout : String := "%(levelname)s:%(name)s:%(message)s"

def levelOfWord (word : String) : Except Fault Int :=
  let name := Text.capitals word
  match levelWords.lookup name with
  | some level => .ok level
  | none =>
      .error (
        if name = layoutWord then
          .plain .value [.text ("Unknown level: " ++ Text.quoted usualLayout)]
        else .plain .noSuchPart [.text ("module 'logging' has no attribute '" ++ name ++ "'")])

/-- The level of a setting, which has to be a text. -/
def levelOf (level : Value) : Except Fault Int :=
  match level.text? with
  | some word => levelOfWord word
  | none => .error (.noSuchPart level "upper")

def packageLevel : Int := 10

def eventLoopLevel : Int := 30

/-- Everything goes to the console, and to a file when one is named. -/
def ofSettings (settings : LogSettings) : Except Fault LogSetup :=
  (levelOf settings.level).map fun rootLevel =>
    { rootLevel
      sinks := .console :: match settings.filePath with
        | some path =>
            if path.isEmpty then [] else [.file path settings.maxFileSize settings.backupCount]
        | none => [] }

end LogSetup

end CacheSteward
