import CacheSteward.Decimal.Layout
import CacheSteward.Decimal.Reading

namespace CacheSteward

/-! Dates and moments of the proleptic Gregorian calendar, years 1 to 9999. -/

structure Date where
  year : Nat
  month : Nat
  day : Nat
deriving Repr, DecidableEq, BEq

/-- A moment to the microsecond.  `offset` is the distance from universal time in minutes, `none`
for a moment that names no zone. -/
structure Moment where
  date : Date
  hour : Nat
  minute : Nat
  second : Nat
  microsecond : Nat
  offset : Option Int
deriving Repr, DecidableEq, BEq

namespace Date

def isLeap (year : Nat) : Bool := year % 4 == 0 && (year % 100 != 0 || year % 400 == 0)

def daysInMonth (year month : Nat) : Nat :=
  if month == 2 then (if isLeap year then 29 else 28)
  else if [4, 6, 9, 11].contains month then 30 else 31

inductive Fault where
  | year (given : Nat)
  | month
  | day
deriving Repr, DecidableEq

def Fault.message : Fault → String
  | .year given => "year " ++ toString given ++ " is out of range"
  | .month => "month must be in 1..12"
  | .day => "day is out of range for month"

def make (year month day : Nat) : Except Fault Date :=
  if year < 1 || 9999 < year then .error (.year year)
  else if month < 1 || 12 < month then .error .month
  else if day < 1 || daysInMonth year month < day then .error .day
  else .ok ⟨year, month, day⟩

def daysBeforeYear (year : Nat) : Nat :=
  let past := year - 1
  past * 365 + past / 4 - past / 100 + past / 400

def daysBeforeMonth (year month : Nat) : Nat :=
  (List.range (month - 1)).foldl (fun days index => days + daysInMonth year (index + 1)) 0

/-- The number of the day, the first day of year 1 being day 1. -/
def ordinal (date : Date) : Nat :=
  daysBeforeYear date.year + daysBeforeMonth date.year date.month + date.day

def lastOrdinal : Nat := 3652059

/-- The month and day of the `rest`-th day of a year, counted from 1, looking from `month` on. -/
def monthAndDay (year : Nat) : Nat → Nat → Nat → Nat × Nat
  | 0, month, rest => (month, rest)
  | fuel + 1, month, rest =>
      let size := daysInMonth year month
      if rest ≤ size then (month, rest) else monthAndDay year fuel (month + 1) (rest - size)

def ofOrdinal? (n : Int) : Option Date :=
  if n < 1 || (lastOrdinal : Int) < n then none
  else
    let n := n.toNat
    -- The estimate is never too late and at most one year too early.
    let guess := (n - 1) / 366 + 1
    let year := ((List.range 40).map (guess + ·)).find?
      (fun year => n ≤ daysBeforeYear (year + 1)) |>.getD guess
    let (month, day) := monthAndDay year 11 1 (n - daysBeforeYear year)
    some ⟨year, month, day⟩

end Date

def padded (width n : Nat) : String :=
  let digits := Decimal.digitsOf n
  String.ofList (Decimal.zeros (width - digits.length) ++ digits)

def Date.iso (date : Date) : String :=
  padded 4 date.year ++ "-" ++ padded 2 date.month ++ "-" ++ padded 2 date.day

namespace Moment

def offsetText (minutes : Int) : String :=
  (if minutes < 0 then "-" else "+") ++ padded 2 (minutes.natAbs / 60) ++ ":" ++
    padded 2 (minutes.natAbs % 60)

/-- Date and time of day with `separator` between them.  Microseconds are written only when there
are any. -/
def iso (separator : String) (moment : Moment) : String :=
  moment.date.iso ++ separator ++ padded 2 moment.hour ++ ":" ++ padded 2 moment.minute ++ ":" ++
    padded 2 moment.second ++
    (if moment.microsecond == 0 then "" else "." ++ padded 6 moment.microsecond) ++
    (match moment.offset with | some minutes => offsetText minutes | none => "")

def microsecondsPerDay : Nat := 86400 * 1000000

/-- Microseconds since midnight of day 0. -/
def instant (moment : Moment) : Int :=
  (moment.date.ordinal * microsecondsPerDay +
    ((moment.hour * 60 + moment.minute) * 60 + moment.second) * 1000000 + moment.microsecond : Nat)

def ofInstant? (offset : Option Int) (instant : Int) : Option Moment :=
  (Date.ofOrdinal? (instant / microsecondsPerDay)).map fun date =>
    let rest := (instant % microsecondsPerDay).toNat
    let seconds := rest / 1000000
    ⟨date, seconds / 3600, seconds / 60 % 60, seconds % 60, rest % 1000000, offset⟩

inductive SpanFault where
  | undefined
  | infinite
  | beyondWord
  | tooManyDays (days : Int)
  | outOfCalendar
deriving Repr, DecidableEq

/-- A span of seconds in whole microseconds.  The fraction of a second is scaled as a double, and
what is then left of a microsecond is rounded with a half going to the even neighbour. -/
def spanMicroseconds (seconds : Float) : Except SpanFault Int :=
  match Decimal.Expansion.of seconds with
  | .notANumber => .error .undefined
  | .infinite _ => .error .infinite
  | .finite .. =>
      let whole := (Decimal.truncate? seconds).getD 0
      let scaled := (seconds - Decimal.nearestWhole whole) * 1000000.0
      let steps := (Decimal.truncate? scaled).getD 0
      let rest := scaled - Decimal.nearestWhole steps
      let total := whole * 1000000 + steps
      let up : Int := if rest < 0.0 then -1 else 1
      let size := rest.abs
      .ok (if size > 0.5 then total + up
        else if size == 0.5 && total % 2 != 0 then total + up
        else total)

def addSeconds (moment : Moment) (seconds : Float) : Except SpanFault Moment := do
  let span ← spanMicroseconds seconds
  let days := span / microsecondsPerDay
  if days.natAbs ≥ Nat.pow 2 31 then throw .beyondWord
  if days.natAbs > 999999999 then throw (.tooManyDays days)
  match ofInstant? moment.offset (moment.instant + span) with
  | some later => pure later
  | none => throw .outOfCalendar

def takeNumber? (least limit : Nat) (cs : List Char) : Option (Nat × Nat × List Char) :=
  let digits := (cs.take limit).takeWhile (fun c => (Text.digitValue? c).isSome)
  if digits.length < least then none
  else
    let value := digits.foldl (fun value c => value * 10 + (Text.digitValue? c).getD 0) 0
    some (value, digits.length, cs.drop digits.length)

/-- The zone at the end of a moment: nothing, `Z`, or a signed distance. -/
def takeZone? (cs : List Char) : Option (Option Int × List Char) :=
  match cs with
  | 'Z' :: rest => some (some 0, rest)
  | sign :: rest =>
      if sign == '+' || sign == '-' then
        match takeNumber? 2 2 rest with
        | none => none
        | some (hours, _, rest) =>
            let tail := match rest with | ':' :: more => more | _ => rest
            let (minutes, rest) :=
              match takeNumber? 2 2 tail with
              | some (minutes, _, rest) => (minutes, rest)
              | none => (0, rest)
            let size : Int := (hours * 60 + minutes : Nat)
            some (some (if sign == '-' then -size else size), rest)
      else some (none, cs)
  | [] => some (none, [])

/-- Reads `year-month-day`, a `T` or a blank, `hour:minute`, and optionally seconds, a fraction of
them and a zone.  One line end may follow. -/
def read? (s : String) : Option Moment := do
  let (year, _, rest) ← takeNumber? 4 4 s.toList
  let rest ← dropMark '-' rest
  let (month, _, rest) ← takeNumber? 1 2 rest
  let rest ← dropMark '-' rest
  let (day, _, rest) ← takeNumber? 1 2 rest
  let rest ← (dropMark 'T' rest).orElse fun _ => dropMark ' ' rest
  let (hour, _, rest) ← takeNumber? 1 2 rest
  let rest ← dropMark ':' rest
  let (minute, _, rest) ← takeNumber? 1 2 rest
  let (second, microsecond, rest) :=
    match (dropMark ':' rest).bind (takeNumber? 1 2) with
    | none => (0, 0, rest)
    | some (second, _, rest) =>
        match (dropMark '.' rest).bind (takeNumber? 1 6) with
        | none => (second, 0, rest)
        | some (fraction, count, more) =>
            let spare := (more.take 6).takeWhile (fun c => (Text.digitValue? c).isSome)
            (second, fraction * Nat.pow 10 (6 - count), more.drop spare.length)
  let (offset, rest) ← takeZone? rest
  if rest.isEmpty || rest == ['\n'] then
    if (offset.map Int.natAbs).getD 0 ≥ 1440 then none
    else if hour > 23 || minute > 59 || second > 59 then none
    else
      match Date.make year month day with
      | .ok date => some ⟨date, hour, minute, second, microsecond, offset⟩
      | .error _ => none
  else none
where
  dropMark (mark : Char) : List Char → Option (List Char)
    | [] => none
    | c :: rest => if c == mark then some rest else none

end Moment

end CacheSteward
