import CacheSteward.Record.Checked

namespace CacheSteward.Field

/-! Fields of records and how their values are read.

Readers are lenient about kinds: numbers stand for text, text spells numbers, and lists of pairs
stand for mappings.  Each reader says exactly what it takes.
-/

variable {α : Type}

/-- Text; numbers count as the text that shows them. -/
def text : Value → Checked String
  | .null => .fail .nullNotAllowed
  | .text s => .valid s
  | .flag b => .valid (Value.flag b).shown
  | .whole n => .valid (Value.whole n).shown
  | .real x => .valid (Value.real x).shown
  | _ => .fail .text

/-- An integer; a double loses its fraction and text may spell one. -/
def whole : Value → Checked Int
  | .null => .fail .nullNotAllowed
  | .flag b => .valid (if b then 1 else 0)
  | .whole n => .valid n
  | .real x => (Decimal.truncate? x).elim (.fail .whole) .valid
  | .text s =>
      if s.length > Decimal.wholeNumberLimit then .fail .whole
      else (Decimal.readWhole? s).elim (.fail .whole) .valid
  | _ => .fail .whole

/-- A double; any number counts, and text may spell one. -/
def real : Value → Checked Float
  | .null => .fail .nullNotAllowed
  | .text s => (Decimal.readReal? s).elim (.fail .real) .valid
  | v => v.amount?.elim (.fail .real) fun a => .valid a.toFloat

def falseWords : List String := ["0", "off", "f", "false", "n", "no"]

def trueWords : List String := ["1", "on", "t", "true", "y", "yes"]

/-- A truth value: a number equal to 0 or 1, or a word for one of them in any case. -/
def flag (v : Value) : Checked Bool :=
  match v with
  | .null => .fail .nullNotAllowed
  | .text s =>
      let word := String.ofList (s.toList.map Char.toLower)
      if trueWords.contains word then .valid true
      else if falseWords.contains word then .valid false
      else .fail .flag
  | _ =>
      if v.same (.whole 1) then .valid true
      else if v.same (.whole 0) then .valid false
      else .fail .flag

def listOf (read : Value → Checked α) : Value → Checked (List α)
  | .null => .fail .nullNotAllowed
  | .list items => Checked.each read 0 items
  | _ => .fail .list

def pair? : Value → Option (Value × Value)
  | .list [k, v] => some (k, v)
  | .text s => match s.toList with
    | [k, v] => some (.text (String.singleton k), .text (String.singleton v))
    | _ => none
  | .mapping [(k, _), (v, _)] => some (k, v)
  | _ => none

/-- Entries from a list of pairs; a later pair replaces an earlier one with the same key. -/
def collectPairs : List Value → List (Value × Value) → Option (List (Value × Value))
  | [], entries => some entries
  | item :: rest, entries =>
      match pair? item with
      | some (k, v) => if k.isKey then collectPairs rest (Value.put k v entries) else none
      | none => none

/-- A mapping: one as such, or what lists its pairs. -/
def entries : Value → Checked (List (Value × Value))
  | .null => .fail .nullNotAllowed
  | .mapping entries => .valid entries
  | .list items => (collectPairs items []).elim (.fail .mapping) .valid
  | .text s => if s.isEmpty then .valid [] else .fail .mapping
  | _ => .fail .mapping

/-- The entries of a mapping that stands for a record: every key is text. -/
def recordEntries (v : Value) : Checked (List (Value × Value)) :=
  (entries v).ensure (fun es => es.all fun (k, _) => k.text?.isSome) .textKeys

/-- A mapping from text to text.  A key is read before its value; where keys read alike the later
value replaces the earlier one. -/
def textEntries (v : Value) : Checked (List (String × String)) :=
  let entry (k v : Value) : Checked (String × String) :=
    match (text k).under (.field "__key__") with
    | .valid key => ((text v).under (.ofKey k)).map (key, ·)
    | .invalid first rest => .invalid first rest
  let rec collect : List (Value × Value) → Checked (List (String × String))
    | [] => .valid []
    | (k, v) :: rest => List.cons <$> entry k v <*> collect rest
  (entries v).andThen fun es => (collect es).map fun pairs =>
    pairs.foldl (fun done (k, v) =>
      if done.any (·.1 == k) then done.map (fun p => if p.1 == k then (k, v) else p)
      else done ++ [(k, v)]) []

def anyEntries (v : Value) : Checked (List (String × Value)) :=
  let rec collect : List (Value × Value) → Checked (List (String × Value))
    | [] => .valid []
    | (k, v) :: rest =>
        List.cons <$> ((text k).under (.field "__key__")).map (·, v) <*> collect rest
  (entries v).andThen fun es => (collect es).map fun pairs =>
    pairs.foldl (fun done (k, v) =>
      if done.any (·.1 == k) then done.map (fun p => if p.1 == k then (k, v) else p)
      else done ++ [(k, v)]) []

def member [Enumerated α] : Value → Checked α
  | .null => .fail .nullNotAllowed
  | .text s =>
      match Enumerated.ofWord? s with
      | some a => .valid a
      | none => .fail notMember
  | _ => .fail notMember
where
  notMember : Rule :=
    .member (Enumerated.title α) ((Enumerated.all : List α).map Enumerated.member)

def constant (permitted : String) (v : Value) : Checked Unit :=
  match v with
  | .null => .fail .nullNotAllowed
  | .text s => if s = permitted then .valid () else .fail (.constant v permitted)
  | _ => .fail (.constant v permitted)

def nullable (read : Value → Checked α) : Value → Checked (Option α)
  | .null => .valid none
  | v => (read v).map some

def wholeAtLeast (limit : Int) (v : Value) : Checked Int :=
  (whole v).ensure (limit ≤ ·) (.atLeast limit)

def wholeWithin (least most : Int) (v : Value) : Checked Int :=
  (wholeAtLeast least v).ensure (· ≤ most) (.atMost most)

def required (name : String) (read : Value → Checked α) (es : List (Value × Value)) : Checked α :=
  (match Value.lookup name es with
    | some v => read v
    | none => .fail .missing).under (.field name)

def orElse (name : String) (default : α) (read : Value → Checked α)
    (es : List (Value × Value)) : Checked α :=
  match Value.lookup name es with
  | some v => (read v).under (.field name)
  | none => .valid default

def optional (name : String) (read : Value → Checked α) (es : List (Value × Value)) :
    Checked (Option α) :=
  orElse name none (nullable read) es

end CacheSteward.Field
