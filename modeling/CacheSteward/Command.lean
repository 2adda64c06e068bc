import CacheSteward.Command.Line
import CacheSteward.Command.Plan
import CacheSteward.Command.Validate
import CacheSteward.Journal.Setup

namespace CacheSteward.Command

/-! The command line: checking desired configurations and showing plans.  Nothing is sent to the
control plane. -/

def programName : String := "scs-ops"

def versionText : String := "0.1.0"

inductive PathContent where
  | missing
  | directory
  | file (text : String)
deriving Repr, DecidableEq

/-! ### What there is to call -/

def verboseOption : OptionSpec := ⟨["--verbose", "-v"], none, "Enable verbose logging"⟩

def formatOption : OptionSpec :=
  ⟨["--format", "-f"], some (PlanFormat.all.map PlanFormat.word), "Output format"⟩

def desiredArgument : String := "DESIRED_FILE"

def observedArgument : String := "OBSERVED_FILE"

def commandSpec (name : String) (options : List OptionSpec) (arguments : List String)
    (description : List String) : CommandSpec :=
  { path := programName ++ " " ++ name
    options := options ++ [.forHelp]
    arguments
    pattern := arguments
    description }

def planSpec : CommandSpec :=
  commandSpec "plan" [formatOption] [desiredArgument, observedArgument]
    ["Show the steps that would bring an instance to the desired state.",
      "",
      "OBSERVED_FILE is an instance detail document as returned by the control",
      "plane. Nothing is sent to the remote side."]

def validateSpec : CommandSpec :=
  commandSpec "validate" [] [desiredArgument] ["Validate a desired-state file."]

def versionSpec : CommandSpec := commandSpec "version" [] [] ["Show version information."]

def programSpec : CommandSpec :=
  { path := programName
    options := [verboseOption, .forHelp]
    arguments := []
    pattern := ["COMMAND", "[ARGS]..."]
    description := ["SCS Ops Agent CLI - Validate and plan SCS instance changes."]
    sections := [("Commands",
      [("plan", "Show the steps that would bring an instance to the desired..."),
        ("validate", "Validate a desired-state file."),
        ("version", "Show version information.")])] }

/-! ### Paths -/

/-- A path without the parts that lead nowhere. -/
def tidyPath (path : String) : String :=
  let parts := (path.splitOn "/").filter fun part => part != "" && part != "."
  let tidy := (if path.startsWith "/" then "/" else "") ++ "/".intercalate parts
  if tidy.isEmpty then "." else tidy

structure NamedText where
  name : String
  text : String

namespace NamedText

def read (document : NamedText) : Except Fault Value :=
  Document.readMapping document.name document.text

end NamedText

def fileArgument (look : String → PathContent) (argument : String) (given : Option String) :
    Except UsageProblem NamedText :=
  match given with
  | none => .error (.missingArgument argument)
  | some path =>
      match look path with
      | .missing => .error (.noSuchFile argument path)
      | .directory => .error (.isDirectory argument path)
      | .file text => .ok ⟨tidyPath path, text⟩

def noExtras (line : CommandLine) (taken : Nat) : Except UsageProblem Unit :=
  match line.arguments.drop taken with
  | [] => .ok ()
  | extras => .error (.extraArguments extras)

/-! ### Running -/

def runPlan (look : String → PathContent) (line : CommandLine) : Except UsageProblem Outcome := do
  let format ← line.choice formatOption PlanFormat.table.word
  let desired ← fileArgument look desiredArgument line.arguments[0]?
  let observed ← fileArgument look observedArgument line.arguments[1]?
  noExtras line 2
  return plan ((PlanFormat.ofWord? format).getD .table) desired.name desired.read observed.read

def runValidate (look : String → PathContent) (line : CommandLine) :
    Except UsageProblem Outcome := do
  let desired ← fileArgument look desiredArgument line.arguments[0]?
  noExtras line 1
  return validate desired.name desired.read

def runVersion (_ : String → PathContent) (line : CommandLine) : Except UsageProblem Outcome := do
  noExtras line 0
  return .success ("SCS Ops Agent CLI\nVersion: " ++ versionText ++ "\n")

abbrev Runner := (String → PathContent) → CommandLine → Except UsageProblem Outcome

def commands : List (String × CommandSpec × Runner) :=
  [("plan", planSpec, runPlan), ("validate", validateSpec, runValidate),
    ("version", versionSpec, runVersion)]

def runCommand (spec : CommandSpec) (run : Runner) (look : String → PathContent)
    (words : List String) : Outcome :=
  let outcome : Except UsageProblem Outcome := do
    let line ← CommandLine.read spec true words
    if line.asksForHelp then return .success spec.helpText
    run look line
  match outcome with
  | .ok outcome => outcome
  | .error problem => .misused (problem.report spec)

/-- The outcome, and the level below which records are dropped in the end. -/
structure ProgramOutcome where
  outcome : Outcome
  rootLevel : Int

/-- The level as long as nothing is set up. -/
def quietLevel : Int := 30

/-- Runs the program.  Logging is set up when the command has been found and details were asked
for. -/
def run (settings : LogSettings) (look : String → PathContent) (words : List String) :
    ProgramOutcome :=
  let quiet (outcome : Outcome) : ProgramOutcome := ⟨outcome, quietLevel⟩
  let misused (problem : UsageProblem) : ProgramOutcome :=
    quiet (.misused (problem.report programSpec))
  if words.isEmpty then quiet (.misused programSpec.helpText)
  else
    match CommandLine.read programSpec false words with
    | .error problem => misused problem
    | .ok line =>
        if line.asksForHelp then quiet (.success programSpec.helpText)
        else
          match line.arguments with
          | [] => misused .missingCommand
          | name :: rest =>
              match commands.lookup name with
              | none =>
                  -- Behind two dashes the name may still look like an option.
                  match CommandLine.read programSpec false line.arguments with
                  | .error problem => misused problem
                  | .ok again =>
                      if again.asksForHelp then quiet (.success programSpec.helpText)
                      else misused (.noSuchCommand name (Text.closeTo name (commands.map Prod.fst)))
              | some (spec, run) =>
                  if line.has verboseOption then
                    match LogSetup.ofSettings settings with
                    | .ok setup => ⟨runCommand spec run look rest, setup.rootLevel⟩
                    | .error fault => quiet (.crashed fault.text)
                  else quiet (runCommand spec run look rest)

end CacheSteward.Command
