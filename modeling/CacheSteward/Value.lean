import CacheSteward.Amount
import CacheSteward.Calendar

namespace CacheSteward

/-! Document values.

Specs, instance details, call arguments and error details are all made of these values.  Mappings
keep their entries in the order of arrival.  Keys are values too, because documents written by hand
may use numbers or dates as keys; everything read through `get?` looks at text keys only.
-/

inductive Value where
  | null
  | flag (b : Bool)
  | whole (n : Int)
  | real (x : Float)
  | text (s : String)
  | date (d : Date)
  | moment (m : Moment)
  | list (items : List Value)
  | mapping (entries : List (Value × Value))

instance : Inhabited Value := ⟨.null⟩

namespace Value

mutual

/-- Whether two values are one.  That two mean the same is `same`. -/
def decEq (a b : Value) : Decidable (a = b) :=
  if kinds : a.ctorIdx = b.ctorIdx then
    match a, b, kinds with
    | .null, .null, _ => isTrue rfl
    | .flag _, .flag _, _ => decidable_of_decidable_of_eq (flag.injEq ..).symm
    | .whole _, .whole _, _ => decidable_of_decidable_of_eq (whole.injEq ..).symm
    | .real _, .real _, _ => decidable_of_decidable_of_eq (real.injEq ..).symm
    | .text _, .text _, _ => decidable_of_decidable_of_eq (text.injEq ..).symm
    | .date _, .date _, _ => decidable_of_decidable_of_eq (date.injEq ..).symm
    | .moment _, .moment _, _ => decidable_of_decidable_of_eq (moment.injEq ..).symm
    | .list items, .list others, _ =>
        have := decEqItems items others
        decidable_of_decidable_of_eq (list.injEq ..).symm
    | .mapping entries, .mapping others, _ =>
        have := decEqEntries entries others
        decidable_of_decidable_of_eq (mapping.injEq ..).symm
  else isFalse fun same => kinds (congrArg Value.ctorIdx same)

def decEqItems : (items others : List Value) → Decidable (items = others)
  | [], [] => isTrue rfl
  | [], _ :: _ | _ :: _, [] => isFalse nofun
  | a :: items, b :: others =>
      have := decEq a b
      have := decEqItems items others
      decidable_of_decidable_of_eq (List.cons.injEq ..).symm

def decEqEntries : (entries others : List (Value × Value)) → Decidable (entries = others)
  | [], [] => isTrue rfl
  | [], _ :: _ | _ :: _, [] => isFalse nofun
  | (k, v) :: entries, (l, w) :: others =>
      have := decEq k l
      have := decEq v w
      have := decEqEntries entries others
      decidable_of_iff ((k = l ∧ v = w) ∧ entries = others)
        (by simp only [List.cons.injEq, Prod.mk.injEq])

end

instance : DecidableEq Value := decEq

def ofAmount : Amount → Value
  | .flag b => .flag b
  | .whole n => .whole n
  | .real x => .real x

def amount? : Value → Option Amount
  | .flag b => some (.flag b)
  | .whole n => some (.whole n)
  | .real x => some (.real x)
  | _ => none

def text? : Value → Option String
  | .text s => some s
  | _ => none

def ofText? : Option String → Value
  | some s => .text s
  | none => .null

def kindName : Value → String
  | .null => "NoneType"
  | .flag _ => "bool"
  | .whole _ => "int"
  | .real _ => "float"
  | .text _ => "str"
  | .date _ => "datetime.date"
  | .moment _ => "datetime.datetime"
  | .list _ => "list"
  | .mapping _ => "dict"

/-- Everything counts as given except null, false, zero and what is empty. -/
def isGiven : Value → Bool
  | .null => false
  | .flag b => b
  | .whole n => n != 0
  | .real x => !(x == 0.0)
  | .text s => s != ""
  | .date _ => true
  | .moment _ => true
  | .list items => !items.isEmpty
  | .mapping entries => !entries.isEmpty

/-- Lists and mappings can be no key. -/
def isKey : Value → Bool
  | .list _ => false
  | .mapping _ => false
  | _ => true

/-- Numbers are the same when they are equal as numbers, whatever their kinds. -/
def sameNumber (a b : Value) : Option Bool :=
  match a.amount?, b.amount? with
  | some x, some y => some (x.equal y)
  | _, _ => none

/-- The entry of a text key, the first one when there are several. -/
def lookup (key : String) : List (Value × Value) → Option Value
  | [] => none
  | (.text k, v) :: rest => if k = key then some v else lookup key rest
  | _ :: rest => lookup key rest

/-- Whether there is an entry whose key passes, and the value of the first one passes. -/
def firstPasses (isKey isValue : Value → Bool) : List (Value × Value) → Bool
  | [] => false
  | (k, v) :: rest => if isKey k then isValue v else firstPasses isKey isValue rest

mutual

/-- Equality of values.  Numbers compare across kinds, and mappings regardless of their order. -/
def same : Value → Value → Bool
  | .null, .null => true
  | .text a, .text b => a == b
  | .date a, .date b => a == b
  | .moment a, .moment b =>
      match a.offset, b.offset with
      | some m, some n => a.instant - m * 60000000 == b.instant - n * 60000000
      | none, none => a == b
      | _, _ => false
  | .list as, .list bs => sameItems as bs
  | .mapping as, .mapping bs => as.length == bs.length && sameEntries as bs
  | a, b => (sameNumber a b).getD false

def sameItems : List Value → List Value → Bool
  | [], [] => true
  | a :: as, b :: bs => same a b && sameItems as bs
  | _, _ => false

def sameEntries : List (Value × Value) → List (Value × Value) → Bool
  | [], _ => true
  | (key, value) :: rest, others =>
      firstPasses (same key) (same value) others && sameEntries rest others

end

/-- The entry of a text key; nothing for a value that is no mapping. -/
def get? (key : String) : Value → Option Value
  | .mapping entries => lookup key entries
  | _ => none

def getOrNull (key : String) (v : Value) : Value := (v.get? key).getD .null

/-- Sets an entry, in place when the key is there and at the end otherwise. -/
def put (key value : Value) : List (Value × Value) → List (Value × Value)
  | [] => [(key, value)]
  | (k, v) :: rest => if same k key then (k, value) :: rest else (k, v) :: put key value rest

/-- Sets the entry of a text key.  What is no mapping stays as it is. -/
def set (v : Value) (key : String) (value : Value) : Value :=
  match v with
  | .mapping entries => .mapping (put (.text key) value entries)
  | v => v

def unset (key : String) : Value → Value
  | .mapping entries =>
      .mapping (entries.filter fun (k, _) => match k with | .text k => k != key | _ => true)
  | v => v

def merge (changes : List (Value × Value)) (entries : List (Value × Value)) :
    List (Value × Value) :=
  changes.foldl (fun entries (k, v) => put k v entries) entries

def fields (entries : List (String × Value)) : Value :=
  .mapping (entries.map fun (k, v) => (.text k, v))

end Value

end CacheSteward
