import CacheSteward.Value.Shown

namespace CacheSteward.Value

/-! Values written as JSON.

Only ASCII is written: every other character becomes one or two `\u` escapes of four hexadecimal
digits.  Dates have no JSON form; the writer either refuses them or writes them as shown text.
-/

inductive JsonFault where
  | value (kind : String)
  | key (kind : String)
deriving Repr, DecidableEq

def JsonFault.message : JsonFault → String
  | .value kind => "Object of type " ++ kind ++ " is not JSON serializable"
  | .key kind => "keys must be str, int, float, bool or None, not " ++ kind

def unitEscape (unit : Nat) : List Char := '\\' :: 'u' :: Text.hexDigits 4 unit

def escapeChar (c : Char) : List Char :=
  if c == '"' then ['\\', '"']
  else if c == '\\' then ['\\', '\\']
  else if c == '\n' then ['\\', 'n']
  else if c == '\r' then ['\\', 'r']
  else if c == '\t' then ['\\', 't']
  else if c == '\x08' then ['\\', 'b']
  else if c == '\x0c' then ['\\', 'f']
  else if 32 ≤ c.toNat && c.toNat < 127 then [c]
  else if c.toNat < 0x10000 then unitEscape c.toNat
  else
    let rest := c.toNat - 0x10000
    unitEscape (0xD800 + rest / 0x400) ++ unitEscape (0xDC00 + rest % 0x400)

def jsonString (s : String) : String :=
  String.ofList ('"' :: s.toList.flatMap escapeChar ++ ['"'])

def jsonReal (x : Float) : String :=
  match Decimal.Expansion.of x with
  | .notANumber => "NaN"
  | .infinite negative => if negative then "-Infinity" else "Infinity"
  | .finite .. => Decimal.natural x

def jsonKey : Value → Except JsonFault String
  | .null => .ok "null"
  | .flag b => .ok (if b then "true" else "false")
  | .whole n => .ok (toString n)
  | .real x => .ok (jsonReal x)
  | .text s => .ok s
  | .date _ => .error (.key "date")
  | .moment _ => .error (.key "datetime")
  | .list _ => .error (.key "list")
  | .mapping _ => .error (.key "dict")

/-- How lists and mappings are laid out: all on one line, or one item a line. -/
inductive JsonLayout where
  | line
  | indented (width : Nat)

def JsonLayout.enclose (layout : JsonLayout) (depth : Nat) (opening closing : String)
    (items : List String) : String :=
  if items.isEmpty then opening ++ closing
  else
    match layout with
    | .line => opening ++ ", ".intercalate items ++ closing
    | .indented width =>
        let margin (depth : Nat) : String :=
          String.ofList ('\n' :: List.replicate (width * depth) ' ')
        opening ++ margin (depth + 1) ++ ("," ++ margin (depth + 1)).intercalate items ++
          margin depth ++ closing

mutual

/-- Writes a value.  With `lenient` a value without a JSON form is written as its shown text.

The machinery underneath refuses to write a whole number of more than `Decimal.wholeNumberLimit`
digits.  That is left out here and in `jsonKey`, where every whole number is written out; the limit is
modelled only where a text is read as one. -/
def writeJson (layout : JsonLayout) (lenient : Bool) (depth : Nat) :
    Value → Except JsonFault String
  | .null => .ok "null"
  | .flag b => .ok (if b then "true" else "false")
  | .whole n => .ok (toString n)
  | .real x => .ok (jsonReal x)
  | .text s => .ok (jsonString s)
  | .date d => if lenient then .ok (jsonString d.iso) else .error (.value "date")
  | .moment m => if lenient then .ok (jsonString (m.iso " ")) else .error (.value "datetime")
  | .list items => (writeItems layout lenient (depth + 1) items).map fun parts =>
      layout.enclose depth "[" "]" parts
  | .mapping entries => (writeEntries layout lenient (depth + 1) entries).map fun parts =>
      layout.enclose depth "\x7b" "\x7d" parts

def writeItems (layout : JsonLayout) (lenient : Bool) (depth : Nat) :
    List Value → Except JsonFault (List String)
  | [] => .ok []
  | v :: rest => do
      let first ← writeJson layout lenient depth v
      let others ← writeItems layout lenient depth rest
      return first :: others

def writeEntries (layout : JsonLayout) (lenient : Bool) (depth : Nat) :
    List (Value × Value) → Except JsonFault (List String)
  | [] => .ok []
  | (k, v) :: rest => do
      let key ← jsonKey k
      let value ← writeJson layout lenient depth v
      let others ← writeEntries layout lenient depth rest
      return (jsonString key ++ ": " ++ value) :: others

end

/-- One line of JSON; what has no JSON form is written as its shown text. -/
def jsonLine (v : Value) : Except JsonFault String := writeJson .line true 0 v

/-- JSON with two blanks of indentation; what has no JSON form is refused. -/
def jsonIndented (v : Value) : Except JsonFault String := writeJson (.indented 2) false 0 v

end CacheSteward.Value
