import CacheSteward.Command
import CacheSteward.Settings

/-! The program: it reads the files that it is called with and shows what comes of them. -/

namespace CacheSteward.Program

def variableNames : List String :=
  ["LOG_LEVEL", "LOG_FILE_PATH", "SCS_CREATE_TIMEOUT", "SCS_UPDATE_TIMEOUT", "SCS_DELETE_TIMEOUT",
    "SCS_READ_TIMEOUT", "SCS_POLL_INTERVAL"]

def environment : IO (List (String × String)) :=
  variableNames.filterMapM fun name => do
    return (← IO.getEnv name).map (name, ·)

/-- What stands at a path.  What is there and cannot be read as a file counts as a directory. -/
def look (path : String) : IO Command.PathContent := do
  try
    return .file (← IO.FS.readFile path)
  catch
    | .noFileOrDirectory .. => return .missing
    | _ => return .directory

end CacheSteward.Program

open CacheSteward in
def main (words : List String) : IO UInt32 := do
  match Settings.ofEnvironment (← Program.environment) with
  | .error fault =>
      (← IO.getStderr).putStrLn fault.text
      return 1
  | .ok settings =>
      let seen ← words.mapM fun word => return (word, ← Program.look word)
      let result := Command.run settings.logging
        (fun path => (seen.lookup path).getD .missing) words
      (← IO.getStdout).putStr result.outcome.out
      (← IO.getStderr).putStr result.outcome.err
      return result.outcome.exit.toUInt32
