import CacheSteward.Value
import CacheSteward.Text.Quoted

namespace CacheSteward.Value

/-! Values as they are shown in messages.

Inside a list or a mapping text is quoted and dates are spelled out; on its own, text stands as it
is and a date in its usual form.
-/

def commaSeparated (parts : List String) : String := ", ".intercalate parts

def dateInside (d : Date) : String :=
  "datetime.date(" ++ commaSeparated ([d.year, d.month, d.day].map toString) ++ ")"

def zoneInside (minutes : Int) : String :=
  if minutes == 0 then "datetime.timezone.utc"
  else
    let days := minutes / 1440
    let seconds := minutes % 1440 * 60
    let parts := (if days == 0 then [] else ["days=" ++ toString days]) ++
      (if seconds == 0 then [] else ["seconds=" ++ toString seconds])
    "datetime.timezone(datetime.timedelta(" ++ commaSeparated parts ++ "))"

def momentInside (m : Moment) : String :=
  let clock :=
    if m.microsecond != 0 then [m.hour, m.minute, m.second, m.microsecond]
    else if m.second != 0 then [m.hour, m.minute, m.second]
    else [m.hour, m.minute]
  let zone := match m.offset with | some minutes => ["tzinfo=" ++ zoneInside minutes] | none => []
  "datetime.datetime(" ++
    commaSeparated (([m.date.year, m.date.month, m.date.day] ++ clock).map toString ++ zone) ++ ")"

mutual

def inside : Value → String
  | .null => "None"
  | .flag b => if b then "True" else "False"
  | .whole n => toString n
  | .real x => Decimal.natural x
  | .text s => Text.quoted s
  | .date d => dateInside d
  | .moment m => momentInside m
  | .list items => "[" ++ commaSeparated (insideItems items) ++ "]"
  | .mapping entries => "\x7b" ++ commaSeparated (insideEntries entries) ++ "\x7d"

def insideItems : List Value → List String
  | [] => []
  | v :: rest => inside v :: insideItems rest

def insideEntries : List (Value × Value) → List String
  | [] => []
  | (k, v) :: rest => (inside k ++ ": " ++ inside v) :: insideEntries rest

end

/-- The text of a value, and `inside` that of one within another.

The machinery underneath refuses to show a whole number of more than `Decimal.wholeNumberLimit`
digits.  That is left out here, where every whole number is written out; the limit is modelled only
where a text is read as one. -/
def shown : Value → String
  | .text s => s
  | .date d => d.iso
  | .moment m => m.iso " "
  | v => v.inside

/-- Values in round brackets; a single one is followed by a comma. -/
def shownTuple : List Value → String
  | [v] => "(" ++ v.inside ++ ",)"
  | vs => "(" ++ commaSeparated (insideItems vs) ++ ")"

end CacheSteward.Value
