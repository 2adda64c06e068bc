import CacheSteward.Text.Digit

namespace CacheSteward.Document

/-! What kind of value a node stands for, and how the kind of a plain scalar is told from its
spelling.
-/

inductive Tag where
  | null
  | flag
  | whole
  | real
  | moment
  | text
  | sequence
  | mapping
  /-- The entries of another mapping go where it stands as a key. -/
  | merge
  /-- The key of the entry that a mapping stands for where a scalar is wanted. -/
  | value
  | other (name : String)
deriving Repr, DecidableEq

namespace Tag

def usualStart : String := "tag:yaml.org,2002:"

def usualNames : List (Tag × String) :=
  [(.null, "null"), (.flag, "bool"), (.whole, "int"), (.real, "float"), (.moment, "timestamp"),
    (.text, "str"), (.sequence, "seq"), (.mapping, "map"), (.merge, "merge"), (.value, "value")]

def name : Tag → String
  | .other name => name
  | tag => usualStart ++ (usualNames.lookup tag).getD ""

def ofName (name : String) : Tag :=
  match usualNames.find? fun (_, word) => usualStart ++ word == name with
  | some (tag, _) => tag
  | none => .other name

/-! ### Spellings

Each recogniser takes the whole of a word.  Underscores may stand anywhere behind the first digit
of a number.
-/

def isDigitOrLine (c : Char) : Bool := c.isDigit || c == '_'

def dropSign : List Char → List Char
  | '-' :: rest => rest
  | '+' :: rest => rest
  | cs => cs

def flagWords : List String :=
  ["yes", "Yes", "YES", "no", "No", "NO", "true", "True", "TRUE", "false", "False", "FALSE",
    "on", "On", "ON", "off", "Off", "OFF"]

def nullWords : List String := ["~", "null", "Null", "NULL", ""]

def isSixtieth : List Char → Bool
  | [c] => c.isDigit
  | [c, d] => '0' ≤ c && c ≤ '5' && d.isDigit
  | _ => false

def cutAtColons (cs : List Char) : List (List Char) := cs.splitOn ':'

def isWhole (cs : List Char) : Bool :=
  match dropSign cs with
  | '0' :: 'b' :: c :: rest => (c :: rest).all fun c => c == '0' || c == '1' || c == '_'
  | '0' :: 'x' :: c :: rest =>
      (c :: rest).all fun c => isDigitOrLine c || ('a' ≤ c && c ≤ 'f') || ('A' ≤ c && c ≤ 'F')
  | '0' :: rest => rest.all fun c => ('0' ≤ c && c ≤ '7') || c == '_'
  | c :: rest =>
      c.isDigit &&
        match cutAtColons rest with
        | digits :: sixtieths => digits.all isDigitOrLine && sixtieths.all isSixtieth
        | [] => true
  | [] => false

/-- An exponent has to have a sign; there may be none at all. -/
def isExponent : List Char → Bool
  | [] => true
  | mark :: sign :: digits =>
      (mark == 'e' || mark == 'E') && (sign == '-' || sign == '+') && !digits.isEmpty &&
        digits.all Char.isDigit
  | _ => false

def isReal (cs : List Char) : Bool :=
  let infinities := [".inf", ".Inf", ".INF"]
  let unsigned := dropSign cs
  [".nan", ".NaN", ".NAN"].contains (String.ofList cs) ||
  infinities.contains (String.ofList unsigned) ||
  (match cs with
    | '.' :: c :: rest => c.isDigit && isExponent (rest.dropWhile isDigitOrLine)
    | _ => false) ||
  (match unsigned with
    | c :: _ =>
        c.isDigit &&
          match unsigned.dropWhile isDigitOrLine with
          | '.' :: fraction => isExponent (fraction.dropWhile isDigitOrLine)
          | ':' :: rest =>
              match (rest.dropWhile (· != '.')) with
              | '.' :: fraction =>
                  (cutAtColons (rest.takeWhile (· != '.'))).all isSixtieth &&
                    fraction.all isDigitOrLine
              | _ => false
          | _ => false
    | [] => false)

def takeDigits? (least most : Nat) (cs : List Char) : Option (Nat × List Char) :=
  let digits := (cs.take most).takeWhile Char.isDigit
  if digits.length < least then none
  else some (digits.foldl (fun n c => 10 * n + (c.toNat - 48)) 0, cs.drop digits.length)

def dropChar? (c : Char) : List Char → Option (List Char)
  | d :: rest => if d == c then some rest else none
  | [] => none

structure Stamp where
  year : Nat
  month : Nat
  day : Nat
  /-- Hour, minute, second and the digits of a fraction. -/
  time : Option (Nat × Nat × Nat × List Char) := none
  /-- Whether the zone lies west, and its hours and minutes. -/
  zone : Option (Bool × Nat × Nat) := none
deriving Repr, DecidableEq

def isStampBlank (c : Char) : Bool := c == ' ' || c == '\t'

def stampZone? (cs : List Char) : Option (Option (Bool × Nat × Nat)) :=
  match cs with
  | [] => some none
  | _ =>
      match cs.dropWhile isStampBlank with
      | ['Z'] => some (some (false, 0, 0))
      | sign :: rest =>
          if sign == '-' || sign == '+' then
            match takeDigits? 1 2 rest with
            | some (hours, []) => some (some (sign == '-', hours, 0))
            | some (hours, ':' :: minutes) =>
                match takeDigits? 2 2 minutes with
                | some (minutes, []) => some (some (sign == '-', hours, minutes))
                | _ => none
            | _ => none
          else none
      | [] => none

/-- Reads a stamp.  On its own a date has two digits for month and day; in front of a time of day
one is enough. -/
def stamp? (cs : List Char) : Option Stamp := do
  let (year, rest) ← takeDigits? 4 4 cs
  let rest ← dropChar? '-' rest
  let (month, rest) ← takeDigits? 1 2 rest
  let rest ← dropChar? '-' rest
  let (day, rest) ← takeDigits? 1 2 rest
  if rest.isEmpty then return { year, month, day }
  let rest ← match rest with
    | 'T' :: rest => some rest
    | 't' :: rest => some rest
    | c :: rest => if isStampBlank c then some (rest.dropWhile isStampBlank) else none
    | [] => none
  let (hour, rest) ← takeDigits? 1 2 rest
  let rest ← dropChar? ':' rest
  let (minute, rest) ← takeDigits? 2 2 rest
  let rest ← dropChar? ':' rest
  let (second, rest) ← takeDigits? 2 2 rest
  let (fraction, rest) := match rest with
    | '.' :: rest => (rest.takeWhile Char.isDigit, rest.dropWhile Char.isDigit)
    | rest => ([], rest)
  let zone ← stampZone? rest
  return { year, month, day, time := some (hour, minute, second, fraction), zone }

/-- A plain word counts as a stamp when it is a date with ten characters or has a time of day. -/
def isStamp (cs : List Char) : Bool :=
  match stamp? cs with
  | some stamp => stamp.time.isSome || cs.length == 10
  | none => false

def ofPlain (text : String) : Tag :=
  let cs := text.toList
  if flagWords.contains text then .flag
  else if isReal cs then .real
  else if isWhole cs then .whole
  else if text == "<<" then .merge
  else if nullWords.contains text then .null
  else if isStamp cs then .moment
  else if text == "=" then .value
  else .text

end Tag

end CacheSteward.Document
