import CacheSteward.Fault

namespace CacheSteward

/-! Message templates.

A template is plain text with directives in it.  A directive starts with a percent sign, may name an
entry of a mapping, and ends with a letter that says how the argument is written.  Directives take
their arguments one after the other, so the first one that cannot be served is the one reported.
-/

inductive Measure where
  | given (n : Nat)
  | fromArgument
deriving Repr, DecidableEq

structure Directive where
  key : Option String
  left : Bool
  plus : Bool
  blank : Bool
  alternate : Bool
  zero : Bool
  width : Option Measure
  places : Option Measure
  /-- Missing when the template ends inside the directive. -/
  letter : Option Char
  position : Nat
deriving Repr, DecidableEq

inductive TemplatePiece where
  | plain (c : Char)
  | directive (d : Directive)
  | openKey
deriving Repr, DecidableEq

namespace Template

/-! ### Reading -/

def isFlag (c : Char) : Bool := c == '-' || c == '+' || c == ' ' || c == '#' || c == '0'

def isAsciiDigit (c : Char) : Bool := '0' ≤ c && c ≤ '9'

/-- A name up to the bracket that closes it; brackets inside it come in pairs. -/
def takeKey : Nat → List Char → Option (List Char × List Char)
  | _, [] => none
  | 0, ')' :: rest => some ([], rest)
  | depth, c :: rest =>
      let deeper := if c == '(' then depth + 1 else if c == ')' then depth - 1 else depth
      (takeKey deeper rest).map fun (key, rest) => (c :: key, rest)

theorem takeKey_length {depth : Nat} {cs key rest : List Char}
    (taken : takeKey depth cs = some (key, rest)) : rest.length < cs.length := by
  induction cs generalizing depth key rest with
  | nil => simp [takeKey] at taken
  | cons c cs ih =>
    unfold takeKey at taken
    split at taken
    · simp at taken
    · rename_i same
      simp only [List.cons.injEq] at same
      simp only [Option.some.injEq, Prod.mk.injEq] at taken
      simp [same, taken]
    · rename_i same
      simp only [List.cons.injEq] at same
      obtain ⟨⟨key', rest'⟩, inner, outer⟩ := Option.map_eq_some_iff.1 taken
      simp only [Prod.mk.injEq] at outer
      rw [← same.2] at inner
      have shorter := ih inner
      rw [← outer.2, List.length_cons]
      omega

def valueOf (digits : List Char) : Nat :=
  digits.foldl (fun value c => value * 10 + (c.toNat - 48)) 0

def takeMeasure : List Char → Option Measure × List Char
  | '*' :: rest => (some .fromArgument, rest)
  | cs =>
      let digits := cs.takeWhile isAsciiDigit
      (if digits.isEmpty then none else some (.given (valueOf digits)), cs.dropWhile isAsciiDigit)

theorem dropWhile_length (p : Char → Bool) (cs : List Char) :
    (cs.dropWhile p).length ≤ cs.length :=
  (List.dropWhile_sublist p).length_le

theorem takeMeasure_length (cs : List Char) : (takeMeasure cs).2.length ≤ cs.length := by
  unfold takeMeasure
  split
  · simp
  · exact dropWhile_length _ _

/-- The number of places after a point; none written means none. -/
def takePlaces : List Char → Option Measure × List Char
  | '.' :: rest => ((takeMeasure rest).1.getD (.given 0), (takeMeasure rest).2)
  | cs => (none, cs)

theorem takePlaces_length (cs : List Char) : (takePlaces cs).2.length ≤ cs.length := by
  unfold takePlaces
  split
  · simp only [List.length_cons]
    have := takeMeasure_length
    grind
  · simp

/-- Letters that once named the size of a machine word and say nothing now. -/
def dropSizeLetter : List Char → List Char
  | c :: rest => if c == 'h' || c == 'l' || c == 'L' then rest else c :: rest
  | [] => []

theorem dropSizeLetter_length (cs : List Char) : (dropSizeLetter cs).length ≤ cs.length := by
  unfold dropSizeLetter
  split
  · split <;> simp
  · simp

/-- What follows the name of a directive: flags, width, places and the letter.  `size` is the
length of the whole template. -/
def takeDirective (size : Nat) (key : Option String) (cs : List Char) : Directive × List Char :=
  let flags := cs.takeWhile isFlag
  let (width, rest) := takeMeasure (cs.dropWhile isFlag)
  let (places, rest) := takePlaces rest
  let rest := dropSizeLetter rest
  ({ key, left := flags.contains '-', plus := flags.contains '+', blank := flags.contains ' '
     alternate := flags.contains '#', zero := flags.contains '0', width, places
     letter := rest.head?, position := size - rest.length }, rest.tail)

theorem takeDirective_length (size : Nat) (key : Option String) (cs : List Char) :
    (takeDirective size key cs).2.length ≤ cs.length := by
  have flags := dropWhile_length isFlag cs
  have width := takeMeasure_length (cs.dropWhile isFlag)
  have places := takePlaces_length (takeMeasure (cs.dropWhile isFlag)).2
  have letter := dropSizeLetter_length (takePlaces (takeMeasure (cs.dropWhile isFlag)).2).2
  simp only [takeDirective, List.length_tail]
  omega

/-- The pieces of a template in order.  Two percent signs stand for one. -/
def pieces (size : Nat) (cs : List Char) : List TemplatePiece :=
  match cs with
  | [] => []
  | '%' :: rest =>
      match rest with
      | '%' :: after => .plain '%' :: pieces size after
      | '(' :: named =>
          match taken : takeKey 0 named with
          | some (key, more) =>
              have := takeKey_length taken
              have := takeDirective_length size (some (String.ofList key)) more
              let taken := takeDirective size (some (String.ofList key)) more
              .directive taken.1 :: pieces size taken.2
          | none => [.openKey]
      | rest =>
          have := takeDirective_length size none rest
          let taken := takeDirective size none rest
          .directive taken.1 :: pieces size taken.2
  | c :: rest => .plain c :: pieces size rest
termination_by cs.length
decreasing_by all_goals simp_all only [List.length_cons]; omega

def read (template : String) : List TemplatePiece := pieces template.length template.toList

/-! ### Filling -/

inductive Problem where
  | tooFewArguments
  | tooManyArguments
  | needsMapping
  | noEntry (key : String)
  | openKey
  | endsInside
  | measureKind
  | widthTooLarge
  | placesTooLarge
  | argumentTooLarge (word : String)
  | unknownLetter (letter : Char) (position : Nat)
  | needsNumber (letter : Char) (kind : String)
  | needsWhole (letter : Char) (kind : String)
  | needsReal (kind : String)
  | realTooLarge
  | notANumber
  | infinite
  | needsCharacter
  | noSuchCharacter
deriving Repr, DecidableEq

def Problem.fault : Problem → Fault
  | .tooFewArguments => .mismatch "not enough arguments for format string"
  | .tooManyArguments => .mismatch "not all arguments converted during string formatting"
  | .needsMapping => .mismatch "format requires a mapping"
  | .noEntry key => .plain .key [.text key]
  | .openKey => .plain .value [.text "incomplete format key"]
  | .endsInside => .plain .value [.text "incomplete format"]
  | .measureKind => .mismatch "* wants int"
  | .widthTooLarge => .plain .value [.text "width too big"]
  | .placesTooLarge => .plain .value [.text "precision too big"]
  | .argumentTooLarge word =>
      .plain .overflow [.text ("Python int too large to convert to C " ++ word)]
  | .unknownLetter letter position =>
      let shown := if 31 ≤ letter.toNat && letter.toNat < 127 then letter else '?'
      .plain .value [.text ("unsupported format character '" ++ String.singleton shown ++ "' (0x" ++
        String.ofList (Nat.toDigits 16 letter.toNat) ++ ") at index " ++ toString position)]
  | .needsNumber letter kind =>
      .mismatch
        ("%" ++ String.singleton letter ++ " format: a real number is required, not " ++ kind)
  | .needsWhole letter kind =>
      .mismatch ("%" ++ String.singleton letter ++ " format: an integer is required, not " ++ kind)
  | .needsReal kind => .mismatch ("must be real number, not " ++ kind)
  | .realTooLarge => .wholeTooLarge
  | .notANumber => .plain .value [.text "cannot convert float NaN to integer"]
  | .infinite => .plain .overflow [.text "cannot convert float infinity to integer"]
  | .needsCharacter => .mismatch "%c requires int or char"
  | .noSuchCharacter => .plain .overflow [.text "%c arg not in range(0x110000)"]

inductive Arguments where
  | items (rest : List Value)
  /-- Entries by name.  `current` is the value that the next directive takes. -/
  | entries (all : List (Value × Value)) (current : Option Value)

/-- A single mapping that is not empty gives its entries by name. -/
def Arguments.ofList : List Value → Arguments
  | [.mapping (entry :: rest)] => .entries (entry :: rest) (some (.mapping (entry :: rest)))
  | args => .items args

abbrev Filling := StateT Arguments (Except Problem)

def nextArgument : Filling Value := do
  match ← get with
  | .items (v :: rest) => set (Arguments.items rest); return v
  | .entries all (some v) => set (Arguments.entries all none); return v
  | _ => throw .tooFewArguments

def select (key : String) : Filling Unit := do
  match ← get with
  | .entries all _ =>
      match Value.lookup key all with
      | some v => set (Arguments.entries all (some v))
      | none => throw (.noEntry key)
  | .items _ => throw .needsMapping

def mostWidth : Nat := Nat.pow 2 63 - 1

def mostPlaces : Nat := Nat.pow 2 31 - 1

/-- An integer argument that a measure asks for, within the bounds of a machine word. -/
def measureArgument (most : Nat) (word : String) : Filling Int := do
  match (← nextArgument).amount?.bind Amount.whole? with
  | some n =>
      if (most : Int) < n || n < -(most : Int) - 1 then throw (.argumentTooLarge word)
      else return n
  | none => throw .measureKind

/-- The width, and whether it asks for the text at its left. -/
def widthOf : Option Measure → Filling (Nat × Bool)
  | none => return (0, false)
  | some (.given n) => if mostWidth < n then throw .widthTooLarge else return (n, false)
  | some .fromArgument => do
      let n ← measureArgument mostWidth "ssize_t"
      return (n.natAbs, n < 0)

def placesOf : Option Measure → Filling (Option Nat)
  | none => return none
  | some (.given n) => if mostPlaces < n then throw .placesTooLarge else return some n
  | some .fromArgument => return some (← measureArgument mostPlaces "int").toNat

structure Written where
  sign : List Char := []
  mark : List Char := []
  body : List Char
  numeric : Bool := false

def Written.layOut (written : Written) (width : Nat) (left zero : Bool) : List Char :=
  let front := written.sign ++ written.mark
  let room := width - (front.length + written.body.length)
  if left then front ++ written.body ++ List.replicate room ' '
  else if written.numeric && zero then front ++ List.replicate room '0' ++ written.body
  else List.replicate room ' ' ++ front ++ written.body

def signOf (d : Directive) (negative : Bool) : List Char :=
  if negative then ['-'] else if d.plus then ['+'] else if d.blank then [' '] else []

def writeText (places : Option Nat) (s : String) : Written :=
  { body := match places with | some n => s.toList.take n | none => s.toList }

/-- The integer of an argument for a letter; the letters of the other bases take no double. -/
def wholeArgument (letter : Char) (v : Value) : Except Problem Int :=
  let isOtherBase := letter == 'o' || letter == 'x' || letter == 'X'
  match v.amount? with
  | none => .error (if isOtherBase then .needsWhole letter v.kindName
      else .needsNumber letter v.kindName)
  | some a =>
      match a.whole? with
      | some n => .ok n
      | none =>
          if isOtherBase then .error (.needsWhole letter v.kindName)
          else
            match Decimal.truncate? a.toFloat with
            | some n => .ok n
            | none => .error (if a.toFloat == a.toFloat then .infinite else .notANumber)

def writeWhole (d : Directive) (letter : Char) (places : Option Nat) (n : Int) : Written :=
  let base := if letter == 'o' then 8 else if letter == 'x' || letter == 'X' then 16 else 10
  let digits := Nat.toDigits base n.natAbs
  let digits := if letter == 'X' then digits.map Char.toUpper else digits
  { sign := signOf d (n < 0)
    mark := if d.alternate && base != 10 then ['0', letter] else []
    body := Decimal.zeros (places.getD 0 - digits.length) ++ digits
    numeric := true }

def realArgument (v : Value) : Except Problem Float :=
  match v.amount? with
  | none => .error (.needsReal v.kindName)
  | some a =>
      match a.whole?, Decimal.truncate? a.toFloat with
      | some _, none => .error .realTooLarge
      | _, _ => .ok a.toFloat

def withPoint (cs : List Char) : List Char :=
  if cs.contains '.' then cs
  else
    let isLeading (c : Char) : Bool := c == '-' || c.isDigit
    cs.takeWhile isLeading ++ '.' :: cs.dropWhile isLeading

def writeReal (d : Directive) (letter : Char) (places : Option Nat) (x : Float) : Written :=
  let places := places.getD 6
  let plain : String := match letter.toLower with
    | 'e' => Decimal.scientific 'e' places x
    | 'f' => Decimal.fixed places x
    | _ => Decimal.general 'e' d.alternate places x
  let cs := plain.toList
  let cs := if d.alternate && cs.any Char.isDigit then withPoint cs else cs
  let cs := if letter.isUpper then cs.map Char.toUpper else cs
  { sign := signOf d (cs.head? == some '-')
    body := if cs.head? == some '-' then cs.tail else cs
    numeric := true }

def characterArgument (v : Value) : Except Problem Char :=
  match v with
  | .text s => match s.toList with
    | [c] => .ok c
    | _ => .error .needsCharacter
  | v =>
      match v.amount?.bind Amount.whole? with
      | none => .error .needsCharacter
      | some n =>
          if n < 0 || 0x110000 ≤ n then .error .noSuchCharacter else .ok (Char.ofNat n.toNat)

def write (d : Directive) (letter : Char) (places : Option Nat) (v : Value) :
    Except Problem Written :=
  match letter with
  | 's' => .ok (writeText places v.shown)
  | 'r' => .ok (writeText places v.inside)
  | 'a' => .ok (writeText places (Text.asciiOnly v.inside))
  | 'd' | 'i' | 'u' | 'o' | 'x' | 'X' =>
      (wholeArgument letter v).map (writeWhole d letter places)
  | 'e' | 'E' | 'f' | 'F' | 'g' | 'G' => (realArgument v).map (writeReal d letter places)
  | 'c' => (characterArgument v).map fun c => { body := [c] }
  | _ => .error (.unknownLetter letter d.position)

def serve (d : Directive) : Filling (List Char) := do
  if let some key := d.key then select key
  let (width, fromLeft) ← widthOf d.width
  let places ← placesOf d.places
  match d.letter with
  | none => throw .endsInside
  | some letter =>
      let v ← nextArgument
      let written ← (write d letter places v : Except Problem Written)
      return written.layOut width (d.left || fromLeft) d.zero

def fillPieces : List TemplatePiece → Filling (List Char)
  | [] => do
      match ← get with
      | .items (_ :: _) => throw .tooManyArguments
      | _ => return []
  | .plain c :: rest => return c :: (← fillPieces rest)
  | .openKey :: _ => do
      match ← get with
      | .entries _ _ => throw .openKey
      | .items _ => throw .needsMapping
  | .directive d :: rest => do
      let front ← serve d
      return front ++ (← fillPieces rest)

def fill (template : String) (args : List Value) : Except Fault String :=
  if args.isEmpty then .ok template
  else
    match (fillPieces (read template)).run (.ofList args) with
    | .ok (cs, _) => .ok (String.ofList cs)
    | .error problem => .error problem.fault

end Template

end CacheSteward
