import CacheSteward.Decimal.Layout
import CacheSteward.Decimal.Reading
import CacheSteward.Proofs.Rounding

namespace CacheSteward.Decimal

open Text

/-! Numbers that are read back from their digits.

However a number is laid out, its digits and their place can be taken from the text again.  For a
finite double that is enough, because the digits that are written name it: reading what is written
gives the same double.
-/

/-! ### Digits -/

theorem digitsOf_eq (n : Nat) : digitsOf n = Nat.toDigits 10 n := by
  simp [digitsOf]

theorem isDigit_of_mem_digitsOf {n : Nat} {c : Char} (member : c ∈ digitsOf n) :
    c.isDigit = true :=
  Nat.isDigit_of_mem_toDigits (by norm_num) (by norm_num) (digitsOf_eq n ▸ member)

theorem digitsOf_ne_nil (n : Nat) : digitsOf n ≠ [] := by
  rw [digitsOf_eq]
  exact Nat.toDigits_ne_nil

theorem ofDigitChars_digitsOf (n : Nat) : Nat.ofDigitChars 10 (digitsOf n) 0 = n := by
  rw [digitsOf_eq, Nat.ofDigitChars_ten_toDigits]

theorem isDigit_of_mem_zeros {n : Nat} {c : Char} (member : c ∈ zeros n) : c.isDigit = true := by
  rw [List.eq_of_mem_replicate member]
  rfl

/-- Zeros in front of digits change nothing. -/
theorem ofDigitChars_zeros_append (n : Nat) (digits : List Char) :
    Nat.ofDigitChars 10 (zeros n ++ digits) 0 = Nat.ofDigitChars 10 digits 0 := by
  rw [Nat.ofDigitChars_append, zeros, Nat.ofDigitChars_replicate_zero, Nat.mul_zero]

theorem digitValue?_of_isDigit {c : Char} (digit : c.isDigit = true) :
    digitValue? c = some (c.toNat - 48) := by
  have most : c.toNat ≤ 57 := (Char.isDigit_iff_toNat.mp digit).2
  have ascii : c.toNat < 128 := by omega
  rw [digitValue?, if_pos ascii, if_pos digit]

/-- Digits do not go on in front of this. -/
def Stops (rest : List Char) : Prop :=
  ∀ c, rest.head? = some c → digitValue? c = none ∧ c ≠ '_'

theorem Stops.nil : Stops [] := nofun

theorem Stops.point (rest : List Char) : Stops ('.' :: rest) := by
  rintro c ⟨⟩
  decide

theorem Stops.exponentPart (exponent : Int) : Stops (exponentPart 'e' exponent) := by
  rintro c ⟨⟩
  decide

theorem takeDigits_stops {rest : List Char} (stops : Stops rest) (value count : Nat) :
    takeDigits rest value count = (value, count, rest) := by
  cases rest with
  | nil => rfl
  | cons c rest =>
      obtain ⟨none, apart⟩ := stops c rfl
      unfold takeDigits
      rw [none]
      grind

theorem takeDigits_cons {c : Char} (digit : c.isDigit = true) (rest : List Char)
    (value count : Nat) :
    takeDigits (c :: rest) value count =
      takeDigits rest (10 * value + (c.toNat - 48)) (count + 1) := by
  conv_lhs => unfold takeDigits
  simp only [digitValue?_of_isDigit digit, Nat.mul_comm]

/-- Digits are taken to their end, and give the number that they spell. -/
theorem takeDigits_append {digits rest : List Char} (plain : ∀ c ∈ digits, c.isDigit = true)
    (stops : Stops rest) (value count : Nat) :
    takeDigits (digits ++ rest) value count =
      (Nat.ofDigitChars 10 digits value, count + digits.length, rest) := by
  induction digits generalizing value count with
  | nil => exact takeDigits_stops stops value count
  | cons c digits ih =>
      rw [List.cons_append, takeDigits_cons (plain c (.head _)),
        ih fun d member => plain d (.tail _ member), Nat.ofDigitChars_cons, List.length_cons,
        Nat.add_assoc, Nat.add_comm 1]
      rfl

/-- Digits with nothing behind them. -/
theorem takeDigits_all {digits : List Char} (plain : ∀ c ∈ digits, c.isDigit = true) :
    takeDigits digits 0 0 = (Nat.ofDigitChars 10 digits 0, digits.length, []) := by
  simpa using takeDigits_append plain Stops.nil 0 0

/-! ### Exponents -/

theorem isDigit_of_mem_exponentDigits {size : Nat} {c : Char}
    (member : c ∈ zeros (2 - (digitsOf size).length) ++ digitsOf size) : c.isDigit = true :=
  (List.mem_append.mp member).elim isDigit_of_mem_zeros isDigit_of_mem_digitsOf

theorem takeExponent_exponentPart (exponent : Int) :
    takeExponent (exponentPart 'e' exponent) = some exponent := by
  let size := digitsOf exponent.natAbs
  let digits := zeros (2 - size.length) ++ size
  have taken : takeDigits digits 0 0 = (exponent.natAbs, digits.length, []) := by
    rw [takeDigits_all fun c => isDigit_of_mem_exponentDigits, ofDigitChars_zeros_append,
      ofDigitChars_digitsOf]
  have given : ¬ (digits.length == 0) = true := by simp [digits, size, digitsOf_ne_nil]
  have sign : takeSign ((if exponent < 0 then '-' else '+') :: digits) =
      (decide (exponent < 0), digits) := by
    by_cases negative : exponent < 0 <;> simp [negative, takeSign]
  change takeExponent ('e' :: (if exponent < 0 then '-' else '+') :: digits) = _
  rw [takeExponent, if_pos (by decide), sign]
  dsimp only
  rw [taken]
  dsimp only
  rw [if_neg given, Option.some.injEq]
  simp only [decide_eq_true_eq]
  split <;> omega

/-! ### Numerals -/

/-- The digits and the exponent that a text without a sign spells. -/
def spelled? (body : List Char) : Option (Nat × Int) :=
  let (whole, wholeCount, rest) := takeDigits body 0 0
  let (digits, fractionCount, rest) :=
    match rest with
    | '.' :: fraction => takeDigits fraction whole 0
    | _ => (whole, 0, rest)
  if wholeCount + fractionCount == 0 then none
  else (takeExponent rest).map fun exponent => (digits, exponent - fractionCount)

/-- A text that spells digits and an exponent, with a point or with an exponent part, or with
both. -/
inductive Numeral : List Char → Nat → Int → Prop where
  | pointed {whole fraction : List Char} (given : whole ≠ [])
      (plain : ∀ c ∈ whole ++ fraction, c.isDigit = true) :
      Numeral (whole ++ '.' :: fraction) (Nat.ofDigitChars 10 (whole ++ fraction) 0)
        (-(fraction.length : Int))
  | scaled {whole : List Char} (given : whole ≠ []) (plain : ∀ c ∈ whole, c.isDigit = true)
      (exponent : Int) :
      Numeral (whole ++ exponentPart 'e' exponent) (Nat.ofDigitChars 10 whole 0) exponent
  | pointedScaled {whole fraction : List Char} (given : whole ≠ [])
      (plain : ∀ c ∈ whole ++ fraction, c.isDigit = true) (exponent : Int) :
      Numeral (whole ++ '.' :: (fraction ++ exponentPart 'e' exponent))
        (Nat.ofDigitChars 10 (whole ++ fraction) 0) (exponent - fraction.length)

/-- A point, and behind it digits and an exponent part or nothing. -/
theorem spelled?_pointed {whole fraction tail : List Char} {exponent : Int} (given : whole ≠ [])
    (plain : ∀ c ∈ whole ++ fraction, c.isDigit = true) (stops : Stops tail)
    (taken : takeExponent tail = some exponent) :
    spelled? (whole ++ '.' :: (fraction ++ tail)) =
      some (Nat.ofDigitChars 10 (whole ++ fraction) 0, exponent - fraction.length) := by
  have front := takeDigits_append (fun c member => plain c (List.mem_append_left _ member))
    (Stops.point (fraction ++ tail)) 0 0
  have behind := takeDigits_append (fun c member => plain c (List.mem_append_right _ member)) stops
    (Nat.ofDigitChars 10 whole 0) 0
  have counted : ¬ (whole.length + fraction.length == 0) = true := by simp [given]
  simp only [spelled?, front, behind, taken, Nat.ofDigitChars_append, Nat.zero_add, if_neg counted]
  rfl

theorem spelled?_scaled {whole : List Char} (given : whole ≠ [])
    (plain : ∀ c ∈ whole, c.isDigit = true) (exponent : Int) :
    spelled? (whole ++ exponentPart 'e' exponent) =
      some (Nat.ofDigitChars 10 whole 0, exponent) := by
  have front := takeDigits_append plain (Stops.exponentPart exponent) 0 0
  have counted : ¬ (0 + whole.length + 0 == 0) = true := by simp [given]
  simp only [spelled?, front]
  change (if 0 + whole.length + 0 == 0 then none
    else (takeExponent (exponentPart 'e' exponent)).map _) = _
  rw [if_neg counted, takeExponent_exponentPart]
  exact congrArg (fun place => some (Nat.ofDigitChars 10 whole 0, place)) (sub_zero exponent)

section Numeral

variable {body : List Char} {digits : Nat} {exponent : Int}

theorem Numeral.spelled? (numeral : Numeral body digits exponent) :
    Decimal.spelled? body = some (digits, exponent) := by
  cases numeral with
  | @pointed whole fraction given plain =>
      simpa using spelled?_pointed given plain Stops.nil (show takeExponent [] = some 0 from rfl)
  | scaled given plain => exact spelled?_scaled given plain exponent
  | pointedScaled given plain exponent =>
      exact spelled?_pointed given plain (Stops.exponentPart exponent)
        (takeExponent_exponentPart exponent)

/-- What a number is written with. -/
def isNumeralChar (c : Char) : Bool :=
  c.isDigit || c == '.' || c == 'e' || c == '+' || c == '-'

theorem isNumeralChar_of_isDigit {c : Char} (digit : c.isDigit = true) :
    isNumeralChar c = true := by
  simp [isNumeralChar, digit]

theorem isNumeralChar_of_mem_exponentPart {exponent : Int} {c : Char}
    (member : c ∈ exponentPart 'e' exponent) : isNumeralChar c = true := by
  rw [exponentPart, List.mem_cons, List.mem_cons] at member
  rcases member with rfl | rfl | member
  · rfl
  · split <;> rfl
  · exact isNumeralChar_of_isDigit (isDigit_of_mem_exponentDigits member)

theorem Numeral.isNumeralChar (numeral : Numeral body digits exponent) :
    ∀ c ∈ body, isNumeralChar c = true := by
  have point : Decimal.isNumeralChar '.' = true := rfl
  intro c member
  cases numeral with
  | pointed given plain => grind [isNumeralChar_of_isDigit]
  | scaled given plain exponent =>
      grind [isNumeralChar_of_isDigit, isNumeralChar_of_mem_exponentPart]
  | pointedScaled given plain exponent =>
      grind [isNumeralChar_of_isDigit, isNumeralChar_of_mem_exponentPart]

theorem visible_of_isNumeralChar {c : Char} (numeral : Decimal.isNumeralChar c = true) :
    33 ≤ c.toNat ∧ c.toNat < 127 := by
  simp only [Decimal.isNumeralChar, Bool.or_eq_true, beq_iff_eq, Char.isDigit_iff_toNat] at numeral
  rcases numeral with (((⟨least, most⟩ | rfl) | rfl) | rfl) | rfl
  · change 48 ≤ c.toNat at least
    change c.toNat ≤ 57 at most
    omega
  all_goals decide

/-- A numeral starts with a digit. -/
theorem Numeral.starts (numeral : Numeral body digits exponent) :
    ∃ c rest, body = c :: rest ∧ c.isDigit = true := by
  cases numeral with
  | @pointed whole _ given plain | @scaled whole given plain _
  | @pointedScaled whole _ given plain _ =>
      cases whole with
      | nil => exact absurd rfl given
      | cons c rest => exact ⟨c, _, rfl, plain c (by simp)⟩

/-- A numeral is told from a whole number by its point or its exponent part. -/
theorem Numeral.marked (numeral : Numeral body digits exponent) : '.' ∈ body ∨ 'e' ∈ body := by
  cases numeral with
  | pointed => simp
  | scaled => exact .inr (List.mem_append_right _ (.head _))
  | pointedScaled => simp

end Numeral

/-! ### Layouts -/

section Layouts

variable {digits : List Char}

theorem Numeral.zerosBehind (given : digits ≠ []) (plain : ∀ c ∈ digits, c.isDigit = true)
    (places : Nat) :
    Numeral (digits ++ zeros places ++ ['.', '0'])
      (10 * (10 ^ places * Nat.ofDigitChars 10 digits 0)) (-1) := by
  have all : ∀ c ∈ digits ++ zeros places ++ ['0'], c.isDigit = true := by
    simp only [List.mem_append, List.mem_singleton]
    rintro c ((member | member) | rfl)
    · exact plain c member
    · exact isDigit_of_mem_zeros member
    · rfl
  have value : Nat.ofDigitChars 10 (digits ++ zeros places ++ ['0']) 0 =
      10 * (10 ^ places * Nat.ofDigitChars 10 digits 0) := by
    rw [Nat.ofDigitChars_append, Nat.ofDigitChars_append]
    exact congrArg (10 * ·) Nat.ofDigitChars_replicate_zero
  exact value ▸ .pointed (by simp [given]) all

theorem Numeral.cut (given : digits ≠ []) (plain : ∀ c ∈ digits, c.isDigit = true) {places : Nat}
    (some : 0 < places) :
    Numeral (digits.take places ++ '.' :: digits.drop places) (Nat.ofDigitChars 10 digits 0)
      (-((digits.length - places : Nat) : Int)) := by
  have whole := List.take_append_drop places digits
  have front : digits.take places ≠ [] := by
    rw [ne_eq, List.take_eq_nil_iff]
    exact not_or.mpr ⟨some.ne', given⟩
  have numeral : Numeral (digits.take places ++ '.' :: digits.drop places) _ _ :=
    .pointed front (by rwa [whole])
  rwa [whole, List.length_drop] at numeral

theorem Numeral.zerosInFront (plain : ∀ c ∈ digits, c.isDigit = true) (places : Nat) :
    Numeral ('0' :: '.' :: (zeros places ++ digits)) (Nat.ofDigitChars 10 digits 0)
      (-((places + digits.length : Nat) : Int)) := by
  have all : ∀ c ∈ ['0'] ++ (zeros places ++ digits), c.isDigit = true := by
    simp only [List.mem_append, List.mem_singleton]
    rintro c (rfl | member | member)
    · rfl
    · exact isDigit_of_mem_zeros member
    · exact plain c member
  have value : Nat.ofDigitChars 10 (['0'] ++ (zeros places ++ digits)) 0 =
      Nat.ofDigitChars 10 digits 0 :=
    (ofDigitChars_zeros_append 1 _).trans (ofDigitChars_zeros_append places digits)
  have length : (zeros places ++ digits).length = places + digits.length := by simp [zeros]
  exact value ▸ length ▸ .pointed (List.cons_ne_nil '0' []) all

theorem Numeral.scientific (given : digits ≠ []) (plain : ∀ c ∈ digits, c.isDigit = true)
    (leading : Int) :
    Numeral (digits.take 1 ++ (if (digits.drop 1).isEmpty then [] else '.' :: digits.drop 1) ++
        exponentPart 'e' leading) (Nat.ofDigitChars 10 digits 0)
      (leading - (digits.length - 1 : Nat)) := by
  obtain ⟨c, rest, rfl⟩ := List.exists_cons_of_ne_nil given
  cases rest with
  | nil => simpa using Numeral.scaled given plain leading
  | cons d rest => exact .pointedScaled (List.cons_ne_nil c []) plain leading

end Layouts

/-- However a number is laid out, its digits and its place are spelled. -/
theorem Significand.natural_numeral (decimal : Significand) :
    ∃ digits exponent, Numeral decimal.natural digits exponent ∧
      (digits : ℚ) * 10 ^ exponent = decimal.value := by
  have plain : ∀ c ∈ digitsOf decimal.digits, c.isDigit = true := fun c => isDigit_of_mem_digitsOf
  have given := digitsOf_ne_nil decimal.digits
  have value := ofDigitChars_digitsOf decimal.digits
  have counted : 0 < (digitsOf decimal.digits).length := List.length_pos_iff.mpr given
  unfold Significand.natural Significand.value
  generalize digitsOf decimal.digits = digits at *
  dsimp only
  rw [← value]
  split
  · split
    · refine ⟨_, _, .zerosBehind given plain _, ?_⟩
      obtain ⟨places, exact⟩ : ∃ places : Nat, decimal.exponent = places :=
        ⟨decimal.exponent.toNat, by omega⟩
      rw [exact, Int.toNat_natCast, zpow_natCast]
      push_cast
      norm_num
      ring
    · split
      · refine ⟨_, _, .cut given plain (Nat.succ_pos _), ?_⟩
        congr 2
        omega
      · refine ⟨_, _, .zerosInFront plain _, ?_⟩
        congr 2
        omega
  · refine ⟨_, _, .scientific given plain _, ?_⟩
    congr 2
    omega

/-! ### Reading what is written -/

theorem toLower_of_isDigit {c : Char} (digit : c.isDigit = true) : c.toLower = c := by
  have most : c.toNat ≤ 57 := (Char.isDigit_iff_toNat.mp digit).2
  have small : ¬ (c.val ≥ 'A'.val ∧ c.val ≤ 'Z'.val) := by
    rintro ⟨least, -⟩
    have far : 65 ≤ c.toNat := UInt32.le_iff_toNat_le.mp least
    omega
  rw [Char.toLower, dif_neg small]

/-- Behind its sign, a text that is no word is read by its digits and its exponent. -/
theorem readReal?_eq_spelled? {s : String} {negative : Bool} {body : List Char}
    (signed : takeSign (trimWhile isNumberBlank s.toList) = (negative, body))
    (noWord : ∀ word ∈ ["inf", "infinity", "nan"], String.ofList (body.map Char.toLower) ≠ word) :
    readReal? s =
      (spelled? body).map fun (digits, exponent) => nearestDecimal negative digits exponent := by
  have infinite : ¬ (String.ofList (body.map Char.toLower) == "inf" ||
      String.ofList (body.map Char.toLower) == "infinity") = true := by
    simp [noWord "inf", noWord "infinity"]
  have undefined : ¬ (String.ofList (body.map Char.toLower) == "nan") = true := by
    simp [noWord "nan"]
  simp only [readReal?, spelled?, signed]
  rw [if_neg infinite, if_neg undefined, apply_ite (Option.map _), Option.map_map]
  rfl

/-- The characters of a number with its sign, written or not. -/
def signedText (negative : Bool) (body : List Char) : List Char :=
  if negative then '-' :: body else body

theorem takeSign_signedText {negative : Bool} {c : Char} {rest : List Char}
    (digit : c.isDigit = true) :
    takeSign (signedText negative (c :: rest)) = (negative, c :: rest) := by
  have minus : c ≠ '-' := fun same => absurd (same ▸ digit) (by decide)
  have plus : c ≠ '+' := fun same => absurd (same ▸ digit) (by decide)
  cases negative with
  | true => rfl
  | false =>
      rw [signedText, if_neg Bool.false_ne_true, takeSign]
      · exact fun _ same => minus (List.cons.inj same).1
      · exact fun _ same => plus (List.cons.inj same).1

theorem isNumeralChar_of_mem_signedText {negative : Bool} {body : List Char}
    (plain : ∀ c ∈ body, isNumeralChar c = true) :
    ∀ c ∈ signedText negative body, isNumeralChar c = true := by
  intro c member
  cases negative with
  | true =>
      rcases List.mem_cons.mp member with rfl | inside
      · rfl
      · exact plain c inside
  | false => exact plain c member

/-- A numeral with its sign is read as the double nearest to what it spells. -/
theorem readReal?_numeral (negative : Bool) {body : List Char} {digits : Nat} {exponent : Int}
    (numeral : Numeral body digits exponent) :
    readReal? (String.ofList (signedText negative body)) =
      some (nearestDecimal negative digits exponent) := by
  obtain ⟨first, rest, starts, digit⟩ := numeral.starts
  have noBlank : ∀ c ∈ signedText negative body, isNumberBlank c = false := by
    intro c member
    obtain ⟨least, most⟩ :=
      visible_of_isNumeralChar (isNumeralChar_of_mem_signedText numeral.isNumeralChar c member)
    exact (Bool.or_eq_false_iff.mp (not_isBlank_of_visible least most)).1
  have signed : takeSign (trimWhile isNumberBlank (String.ofList (signedText negative body)).toList)
      = (negative, body) := by
    rw [String.toList_ofList, trimWhile_eq_self noBlank, starts, takeSign_signedText digit]
  have noWord : ∀ word ∈ ["inf", "infinity", "nan"],
      String.ofList (body.map Char.toLower) ≠ word := by
    intro word listed same
    have spelling := congrArg (fun text => text.toList.head?) same
    rw [starts, List.map_cons, toLower_of_isDigit digit] at spelling
    simp at spelling listed
    rcases listed with rfl | rfl | rfl <;> cases spelling <;> cases digit
  rw [readReal?_eq_spelled? signed noWord, numeral.spelled?]
  rfl

/-! ### Doubles -/

/-- A finite double is written as a numeral, whose nearest double it is. -/
theorem natural_of_finite {x : Float} {negative narrowBelow : Bool} {mantissa : Nat}
    {exponent : Int} (expanded : Expansion.of x = .finite negative mantissa exponent narrowBelow) :
    ∃ body digits place, natural x = String.ofList (signedText negative body) ∧
      Numeral body digits place ∧ nearestDecimal negative digits place = x := by
  obtain ⟨normal, same⟩ := Expansion.normal_of_finite expanded
  have written : natural x = String.ofList (signedText negative (if mantissa == 0 then
      ['0', '.', '0'] else (shortest mantissa exponent narrowBelow).natural)) := by
    simp only [natural, around, expanded, signedText]
  rw [written]
  by_cases zero : mantissa = 0
  · subst zero
    have least : exponent = -1074 := by
      have full := normal.full
      have least := normal.least_le
      omega
    subst least
    refine ⟨['0', '.', '0'], _, _, rfl, @Numeral.zerosBehind ['0'] (by simp) (by simp) 0, ?_⟩
    rw [← same]
    cases negative <;> decide +kernel
  · rw [if_neg (by simpa using zero)]
    obtain ⟨digits, place, numeral, value⟩ :=
      (shortest mantissa exponent narrowBelow).natural_numeral
    refine ⟨_, digits, place, rfl, numeral, ?_⟩
    rw [← same]
    apply nearestDecimal_of_near normal (Nat.pos_of_ne_zero zero)
    rw [value]
    exact near_shortest (Nat.pos_of_ne_zero zero)

/-- What is written of a finite double is read as that double. -/
theorem readReal?_natural {x : Float} {negative narrowBelow : Bool} {mantissa : Nat}
    {exponent : Int} (expanded : Expansion.of x = .finite negative mantissa exponent narrowBelow) :
    readReal? (natural x) = some x := by
  obtain ⟨body, digits, place, written, numeral, nearest⟩ := natural_of_finite expanded
  rw [written, readReal?_numeral negative numeral, nearest]

end CacheSteward.Decimal
