import CacheSteward.Command.Usage
import CacheSteward.Text.Similar

namespace CacheSteward.Command

/-! Telling options from arguments among the words of a command line.

A word with two dashes names an option in full and may carry its value behind an equals sign; a word
with one dash strings short options together, the rest of the word being the value of the first one
that takes one.  Two dashes alone end the options.
-/

structure GivenOption where
  option : OptionSpec
  value : Option String
deriving Repr, DecidableEq

structure CommandLine where
  /-- In the order in which they were given. -/
  given : List GivenOption
  arguments : List String
deriving Repr, DecidableEq

namespace CommandLine

def takesValue (option : OptionSpec) : Bool := option.choices.isSome

def find? (spec : CommandSpec) (name : String) : Option OptionSpec :=
  spec.options.find? fun option => option.names.contains name

def longNames (spec : CommandSpec) : List String :=
  (spec.options.flatMap OptionSpec.names).filter (·.startsWith "--")

/-- What a word with options comes to: the options it gives, and the name of a last one whose value
is still to come. -/
structure Taken where
  given : List GivenOption
  awaiting : Option (String × OptionSpec)

def takeShort (spec : CommandSpec) : List Char → Except UsageProblem Taken
  | [] => .ok ⟨[], none⟩
  | c :: rest =>
      let name := String.ofList ['-', c]
      match find? spec name with
      | none => .error (.noSuchOption name [])
      | some option =>
          if takesValue option then
            if rest.isEmpty then .ok ⟨[], some (name, option)⟩
            else .ok ⟨[⟨option, some (String.ofList rest)⟩], none⟩
          else (takeShort spec rest).map fun taken =>
            { taken with given := ⟨option, none⟩ :: taken.given }

def takeLong (spec : CommandSpec) (word : List Char) : Except UsageProblem Taken :=
  let name := String.ofList (word.takeWhile (· != '='))
  let explicit : Option String := match word.dropWhile (· != '=') with
    | '=' :: value => some (String.ofList value)
    | _ => none
  match (find? spec name).filter fun _ => name.startsWith "--" with
  | none => .error (.noSuchOption name (Text.closeTo name (longNames spec)))
  | some option =>
      match takesValue option, explicit with
      | true, some value => .ok ⟨[⟨option, some value⟩], none⟩
      | true, none => .ok ⟨[], some (name, option)⟩
      | false, some _ => .error (.takesNoValue name)
      | false, none => .ok ⟨[⟨option, none⟩], none⟩

def isOptionWord (word : String) : Bool := word.startsWith "-" && word != "-"

/-- Reads the words.  Where options may not follow arguments, everything from the first argument on
is an argument. -/
def read (spec : CommandSpec) (mixed : Bool) : List String → Except UsageProblem CommandLine
  | [] => .ok ⟨[], []⟩
  | [word] => do
      if word == "--" then return ⟨[], []⟩
      else if isOptionWord word then
        let taken ← takeWord word
        match taken.awaiting with
        | some (name, _) => .error (.needsValue name)
        | none => return ⟨taken.given, []⟩
      else return ⟨[], [word]⟩
  | word :: next :: rest => do
      if word == "--" then return ⟨[], next :: rest⟩
      else if isOptionWord word then
        let taken ← takeWord word
        match taken.awaiting with
        | some (_, option) =>
            let line ← read spec mixed rest
            return { line with given := taken.given ++ ⟨option, some next⟩ :: line.given }
        | none =>
            let line ← read spec mixed (next :: rest)
            return { line with given := taken.given ++ line.given }
      else if mixed then
        let line ← read spec mixed (next :: rest)
        return { line with arguments := word :: line.arguments }
      else return ⟨[], word :: next :: rest⟩
where
  takeWord (word : String) : Except UsageProblem Taken :=
    let cs := word.toList
    if word.startsWith "--" then takeLong spec cs else takeShort spec cs.tail

def asksForHelp (line : CommandLine) : Bool :=
  line.given.any fun given => given.option == .forHelp

def has (line : CommandLine) (option : OptionSpec) : Bool :=
  line.given.any (·.option == option)

/-- The value of an option, which has to be one of its choices; the last one given counts. -/
def choice (line : CommandLine) (option : OptionSpec) (usual : String) :
    Except UsageProblem String :=
  match (line.given.filter (·.option == option)).getLast?.bind (·.value) with
  | none => .ok usual
  | some value =>
      if (option.choices.getD []).contains value then .ok value
      else .error (.notAmongChoices option value)

end CommandLine

end CacheSteward.Command
