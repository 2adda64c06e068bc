import CacheSteward.Decimal.Nearest
import CacheSteward.Text.Digit

namespace CacheSteward.Decimal

/-! Numbers written by people.

Digits of any script count, one underscore may stand between two digits, and blanks around the
number are ignored.
-/

open Text

/-- Reads digits with single underscores between them: their value, how many they are, and the
rest. -/
def takeDigits : List Char → Nat → Nat → Nat × Nat × List Char
  | [], value, count => (value, count, [])
  | c :: rest, value, count =>
      match digitValue? c with
      | some d => takeDigits rest (value * 10 + d) (count + 1)
      | none =>
          match c, rest with
          | '_', next :: _ =>
              if count > 0 && (digitValue? next).isSome then takeDigits rest value count
              else (value, count, c :: rest)
          | _, _ => (value, count, c :: rest)

def takeSign : List Char → Bool × List Char
  | '-' :: rest => (true, rest)
  | '+' :: rest => (false, rest)
  | cs => (false, cs)

/-- The longest text, and the most digits, read as a whole number. -/
def wholeNumberLimit : Nat := 4300

def readWhole? (s : String) : Option Int :=
  let (negative, digits) := takeSign (trimWhile isNumberBlank s.toList)
  match takeDigits digits 0 0 with
  | (value, count, []) =>
      if count == 0 || count > wholeNumberLimit then none
      else some (if negative then -(value : Int) else value)
  | _ => none

def takeExponent : List Char → Option Int
  | [] => some 0
  | c :: rest =>
      if c == 'e' || c == 'E' then
        let (negative, digits) := takeSign rest
        match takeDigits digits 0 0 with
        | (value, count, []) =>
            if count == 0 then none else some (if negative then -(value : Int) else value)
        | _ => none
      else none

/-- The double a text spells: a decimal with an optional exponent, an infinity, or not-a-number. -/
def readReal? (s : String) : Option Float :=
  let (negative, body) := takeSign (trimWhile isNumberBlank s.toList)
  let word := String.ofList (body.map Char.toLower)
  if word == "inf" || word == "infinity" then some (if negative then -1.0 / 0.0 else 1.0 / 0.0)
  else if word == "nan" then some (0.0 / 0.0)
  else
    let (whole, wholeCount, rest) := takeDigits body 0 0
    let (digits, fractionCount, rest) :=
      match rest with
      | '.' :: fraction => takeDigits fraction whole 0
      | _ => (whole, 0, rest)
    if wholeCount + fractionCount == 0 then none
    else
      (takeExponent rest).map fun exponent =>
        nearestDecimal negative digits (exponent - fractionCount)

end CacheSteward.Decimal
