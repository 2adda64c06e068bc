import CacheSteward.Decimal.Reading
import CacheSteward.Document.Node
import CacheSteward.Value

namespace CacheSteward.Document

/-! The value that a tree of nodes stands for.

A tree is checked before its value is taken: level by level from the top, and on a level from left
to right.  So a mistake near the top is reported before one that comes earlier but lies deeper.
-/

/-! ### Words -/

def badValue {α : Type} (message : String) : Except Flaw α :=
  .error (.meaningless (.plain .value [.text message]))

def dropLines (cs : List Char) : List Char := cs.filter (· != '_')

def digitsValue (base : Nat) (cs : List Char) : Except Flaw Nat :=
  let shown := String.ofList cs
  let failure {α : Type} : Except Flaw α :=
    badValue ("invalid literal for int() with base " ++ toString base ++ ": " ++ Text.quoted shown)
  if cs.isEmpty then failure
  else cs.foldlM (fun value c =>
    match hexDigitValue? c with
    | some digit => if digit < base then .ok (base * value + digit) else failure
    | none => failure) 0

/-- Digits to the base of sixty, the most significant first. -/
def sixtiethsValue (parts : List Nat) : Nat := parts.foldl (fun value part => 60 * value + part) 0

/-- An integer: binary, octal, decimal, hexadecimal, or to the base of sixty with colons. -/
def wholeValue (text : String) : Except Flaw Int := do
  let cs := dropLines text.toList
  match cs with
  | [] => .error (.meaningless (.plain .lookup [.text "string index out of range"]))
  | first :: _ =>
      let unsigned := if first == '-' || first == '+' then cs.tail else cs
      let size ← (match unsigned with
        | ['0'] => pure 0
        | '0' :: 'b' :: digits => digitsValue 2 digits
        | '0' :: 'x' :: digits => digitsValue 16 digits
        | '0' :: _ => digitsValue 8 unsigned
        | [] => .error (.meaningless (.plain .lookup [.text "string index out of range"]))
        | _ =>
            if unsigned.contains ':' then do
              return sixtiethsValue (← (Tag.cutAtColons unsigned).mapM (digitsValue 10))
            else digitsValue 10 unsigned)
      return if first == '-' then -(size : Int) else size

def realPart (cs : List Char) : Except Flaw Float :=
  match Decimal.readReal? (String.ofList cs) with
  | some x => .ok x
  | none => badValue ("could not convert string to float: " ++ Text.quoted (String.ofList cs))

/-- A double: a decimal, an infinity, not-a-number, or to the base of sixty with colons. -/
def realValue (text : String) : Except Flaw Float := do
  let cs := (dropLines text.toList).map Char.toLower
  match cs with
  | [] => .error (.meaningless (.plain .lookup [.text "string index out of range"]))
  | first :: _ =>
      let unsigned := if first == '-' || first == '+' then cs.tail else cs
      let sign : Float := if first == '-' then -1.0 else 1.0
      if String.ofList unsigned == ".inf" then return sign * (1.0 / 0.0)
      else if String.ofList unsigned == ".nan" then return 0.0 / 0.0
      else if unsigned.contains ':' then
        let parts ← (Tag.cutAtColons unsigned).mapM realPart
        let places := (List.range parts.length).map fun n => Decimal.nearestWhole (Nat.pow 60 n)
        return sign * (parts.reverse.zip places).foldl (fun sum (x, place) => sum + x * place) 0.0
      else return sign * (← realPart unsigned)

def microseconds (fraction : List Char) : Nat :=
  let digits := fraction.take 6
  digits.foldl (fun n c => 10 * n + (c.toNat - 48)) 0 * Nat.pow 10 (6 - digits.length)

def offsetValue (west : Bool) (hours minutes : Nat) : Except Flaw Int :=
  let size : Int := (60 * hours + minutes : Nat)
  let offset := if west then -size else size
  if size < 1440 then .ok offset
  else
    let days := offset / 1440
    let seconds := offset % 1440 * 60
    badValue ("offset must be a timedelta strictly between -timedelta(hours=24) and " ++
      "timedelta(hours=24), not datetime.timedelta(days=" ++ toString days ++
      (if seconds == 0 then "" else ", seconds=" ++ toString seconds) ++ ").")

def stampValue (stamp : Tag.Stamp) : Except Flaw Value := do
  let date : Except Flaw Date := match Date.make stamp.year stamp.month stamp.day with
    | .ok date => .ok date
    | .error fault => badValue fault.message
  match stamp.time with
  | none => return .date (← date)
  | some (hour, minute, second, fraction) =>
      let offset ← stamp.zone.mapM fun (west, hours, minutes) => offsetValue west hours minutes
      let date ← date
      if 23 < hour then badValue "hour must be in 0..23"
      if 59 < minute then badValue "minute must be in 0..59"
      if 59 < second then badValue "second must be in 0..59"
      return .moment ⟨date, hour, minute, second, microseconds fraction, offset⟩

def flagValue (text : String) : Except Flaw Bool :=
  let word := String.ofList (text.toList.map Char.toLower)
  if ["yes", "true", "on"].contains word then .ok true
  else if ["no", "false", "off"].contains word then .ok false
  else .error (.meaningless (.plain .key [.text word]))

namespace Node

def wordValue (tag : Tag) (text : String) : Except Flaw Value :=
  match tag with
  | .null => .ok .null
  | .flag => (flagValue text).map .flag
  | .whole => (wholeValue text).map .whole
  | .real => (realValue text).map .real
  | .moment =>
      match Tag.stamp? text.toList with
      | some stamp => stampValue stamp
      | none => .error (.meaningless (.noSuchPart .null "groupdict"))
  | _ => .ok (.text text)

/-! ### Checking -/

mutual

/-- The word of a node where a single value is wanted.  A mapping may stand for one of its
entries. -/
def word : Node → Except Flaw String
  | .scalar _ text _ => .ok text
  | .mapping _ entries start => wordAmong start entries
  | node => failAlone (.expectedNode "a scalar node" node.kindName) node.start

def wordAmong (start : Mark) : List (Node × Node) → Except Flaw String
  | [] => failAlone (.expectedNode "a scalar node" "mapping") start
  | (key, value) :: rest => if key.tag == .value then value.word else wordAmong start rest

end

def isCollection (node : Node) : Bool := node.tag == .sequence || node.tag == .mapping

def checkAlone (node : Node) : Except Flaw Unit := do
  match node.tag with
  | .sequence => return
  | .mapping => return
  | .merge => failAlone (.unknownTag node.tag.name) node.start
  | .value => failAlone (.unknownTag node.tag.name) node.start
  | .other name => failAlone (.unknownTag name) node.start
  | tag =>
      let _ ← wordValue tag (← node.word)
      return

mutual

/-- The entries of a mapping, with those that are merged into it in front.  Of several mappings in
one list the first counts most, so it comes last. -/
def flatten (start : Mark) :
    List (Node × Node) → Except Flaw (List (Node × Node) × List (Node × Node))
  | [] => .ok ([], [])
  | (key, value) :: rest => do
      if key.tag == .merge then
        let front ← value.mergeEntries start
        let (merged, own) ← flatten start rest
        return (front ++ merged, own)
      else
        let (merged, own) ← flatten start rest
        return (merged, (key, value) :: own)

def mergeEntries (start : Mark) : Node → Except Flaw (List (Node × Node))
  | .mapping _ entries inner => (flatten inner entries).map fun (merged, own) => merged ++ own
  | .sequence _ items _ => (mergeItems start items).map fun parts => parts.reverse.flatten
  | .cycle _ => .ok []
  | node => fail (.constructing .mapping) start
      (.expectedNode "a mapping or list of mappings for merging" node.kindName) node.start

def mergeItems (start : Mark) : List Node → Except Flaw (List (List (Node × Node)))
  | [] => .ok []
  | .mapping _ entries inner :: rest => do
      let (merged, own) ← flatten inner entries
      return (merged ++ own) :: (← mergeItems start rest)
  | .cycle _ :: rest => mergeItems start rest
  | node :: _ => fail (.constructing .mapping) start
      (.expectedNode "a mapping for merging" node.kindName) node.start

end

/-- Checks a key, which may be no collection.  The sign of a value stands for itself as a key. -/
def checkKey (start : Mark) (key : Node) : Except Flaw Unit := do
  match key with
  | .scalar .value _ _ => return
  | _ =>
      key.checkAlone
      if key.isCollection then fail (.constructing .mapping) start .unhashableKey key.start

def checkInside (node : Node) : Except Flaw (List Node) :=
  match node.tag, node with
  | .sequence, .sequence _ items _ => do
      items.forM checkAlone
      return items.filter isCollection
  | .sequence, _ => failAlone (.expectedNode "a sequence node" node.kindName) node.start
  | _, .mapping _ entries start => do
      let (merged, own) ← flatten start entries
      (merged ++ own).forM fun (key, value) => do
        key.checkKey start
        value.checkAlone
      return ((merged ++ own).map Prod.snd).filter isCollection
  | _, .cycle _ => .ok []
  | _, _ => failAlone (.expectedNode "a mapping node" node.kindName) node.start

def checkLevels : Nat → List Node → Except Flaw Unit
  | _, [] => .ok ()
  | 0, _ => .ok ()
  | fuel + 1, node :: rest => do checkLevels fuel (rest ++ (← node.checkInside))

mutual

def size : Node → Nat
  | .sequence _ items _ => sizeItems items + 1
  | .mapping _ entries _ => sizeEntries entries + 1
  | _ => 1

def sizeItems : List Node → Nat
  | [] => 0
  | node :: rest => node.size + sizeItems rest

def sizeEntries : List (Node × Node) → Nat
  | [] => 0
  | (key, value) :: rest => key.size + value.size + sizeEntries rest

end

def check (node : Node) : Except Flaw Unit := do
  node.checkAlone
  if node.isCollection then checkLevels (node.size * node.size + 1) [node]

/-! ### Values -/

def valueOfWord (tag : Tag) (text : String) : Value := (wordValue tag text).toOption.getD .null

mutual

def value : Node → Value
  | .scalar tag text _ => valueOfWord tag text
  | .sequence _ items _ => .list (valueItems items)
  | .mapping .mapping entries _ =>
      .mapping (Value.merge (mergedValues entries ++ ownValues entries) [])
  | .mapping tag entries start =>
      valueOfWord tag ((wordAmong start entries).toOption.getD "")
  | .cycle _ => .mapping []

def valueItems : List Node → List Value
  | [] => []
  | node :: rest => node.value :: valueItems rest

def ownValues : List (Node × Node) → List (Value × Value)
  | [] => []
  | (key, value) :: rest =>
      if key.tag == .merge then ownValues rest
      else (key.value, value.value) :: ownValues rest

def mergedValues : List (Node × Node) → List (Value × Value)
  | [] => []
  | (key, value) :: rest =>
      (if key.tag == .merge then value.mergeValues else []) ++ mergedValues rest

def mergeValues : Node → List (Value × Value)
  | .mapping _ entries _ => mergedValues entries ++ ownValues entries
  | .sequence _ items _ => mergeValuesBackward items
  | _ => []

def mergeValuesBackward : List Node → List (Value × Value)
  | [] => []
  | node :: rest => mergeValuesBackward rest ++ node.mergeValues

end

end Node

end CacheSteward.Document
