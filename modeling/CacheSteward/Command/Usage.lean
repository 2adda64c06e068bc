import CacheSteward.Text.Quoted

namespace CacheSteward.Command

/-! What a command takes, the help on it, and what can be wrong with its use. -/

structure OptionSpec where
  /-- Its names, the one that problems put first in front. -/
  names : List String
  /-- The values to choose from; none for an option without a value. -/
  choices : Option (List String)
  help : String
deriving Repr, DecidableEq

structure CommandSpec where
  path : String
  options : List OptionSpec
  arguments : List String
  pattern : List String
  description : List String
  sections : List (String × List (String × String)) := []
deriving Repr, DecidableEq

namespace OptionSpec

/-- The names with the short ones first, and the choices. -/
def heading (option : OptionSpec) : String :=
  let isShort (name : String) : Bool := !name.startsWith "--"
  let names := option.names.filter isShort ++ option.names.filter fun name => !isShort name
  ", ".intercalate names ++
    match option.choices with
    | some choices => " [" ++ "|".intercalate choices ++ "]"
    | none => ""

def forHelp : OptionSpec := ⟨["--help"], none, "Show this message and exit."⟩

end OptionSpec

namespace CommandSpec

def usage (spec : CommandSpec) : String :=
  "Usage: " ++ " ".intercalate (spec.path :: "[OPTIONS]" :: spec.pattern)

def columns (rows : List (String × String)) : List String :=
  let width := (rows.map fun (left, _) => left.length).foldl max 0
  rows.map fun (left, right) =>
    "  " ++ left ++ String.ofList (List.replicate (width + 2 - left.length) ' ') ++ right

def helpText (spec : CommandSpec) : String :=
  let indented := spec.description.map fun line => if line.isEmpty then "" else "  " ++ line
  let options := ("Options", spec.options.map fun option => (option.heading, option.help))
  let sections := (options :: spec.sections).map fun (title, rows) =>
    "\n".intercalate ((title ++ ":") :: columns rows)
  "\n\n".intercalate (spec.usage :: "\n".intercalate indented :: sections) ++ "\n"

end CommandSpec

inductive UsageProblem where
  | noSuchOption (name : String) (similar : List String)
  | needsValue (name : String)
  | takesNoValue (name : String)
  | notAmongChoices (option : OptionSpec) (given : String)
  | missingArgument (name : String)
  | noSuchFile (argument path : String)
  | isDirectory (argument path : String)
  | extraArguments (words : List String)
  | noSuchCommand (word : String) (similar : List String)
  | missingCommand
deriving Repr, DecidableEq

namespace UsageProblem

def quotedWords (words : List String) : String := ", ".intercalate (words.map Text.quoted)

def suggestion : List String → String
  | [] => ""
  | [word] => " Did you mean " ++ Text.quoted word ++ "?"
  | words => " (Did you mean one of: " ++
      quotedWords (words.mergeSort fun a b => decide (a ≤ b)) ++ "?)"

def message : UsageProblem → String
  | .noSuchOption name similar => "No such option " ++ Text.quoted name ++ "." ++ suggestion similar
  | .needsValue name => "Option " ++ Text.quoted name ++ " requires an argument."
  | .takesNoValue name => "Option " ++ Text.quoted name ++ " does not take a value."
  | .notAmongChoices option given =>
      "Invalid value for " ++ " / ".intercalate (option.names.map fun name => "'" ++ name ++ "'") ++
        ": " ++ Text.quoted given ++ " is not one of " ++
        quotedWords (option.choices.getD []) ++ "."
  | .missingArgument name => "Missing argument '" ++ name ++ "'."
  | .noSuchFile argument path =>
      "Invalid value for '" ++ argument ++ "': File " ++ Text.quoted path ++ " does not exist."
  | .isDirectory argument path =>
      "Invalid value for '" ++ argument ++ "': File " ++ Text.quoted path ++ " is a directory."
  | .extraArguments words =>
      "Got unexpected extra argument" ++ (if words.length == 1 then "" else "s") ++ " (" ++
        " ".intercalate words ++ ")"
  | .noSuchCommand word similar =>
      "No such command " ++ Text.quoted word ++ "." ++ suggestion similar
  | .missingCommand => "Missing command."

/-- Problems with the value of an option are told without the use of the command. -/
def isBare : UsageProblem → Bool
  | .needsValue _ => true
  | .takesNoValue _ => true
  | _ => false

def report (spec : CommandSpec) (problem : UsageProblem) : String :=
  (if problem.isBare then ""
    else spec.usage ++ "\nTry '" ++ spec.path ++ " --help' for help.\n\n") ++
    "Error: " ++ problem.message ++ "\n"

end UsageProblem

end CacheSteward.Command
