import CacheSteward.Proofs.Numerals
import CacheSteward.Value.Json

namespace CacheSteward.Json

open Value (escapeChar unitEscape jsonString)

/-! Reading JSON.

The reader knows nothing of how JSON is written here: blanks may stand between the parts, every
escape is taken, and a character may be written by two code units.  Texts, numbers and the words
for the other scalars are read back as they were.
-/

/-! ### Reading -/

def isBlank (c : Char) : Bool := c == ' ' || c == '\t' || c == '\n' || c == '\r'

def skipBlanks (text : List Char) : List Char := text.dropWhile isBlank

def hexValue? (c : Char) : Option Nat :=
  if '0' ≤ c ∧ c ≤ '9' then some (c.toNat - 48)
  else if 'a' ≤ c ∧ c ≤ 'f' then some (c.toNat - 87)
  else if 'A' ≤ c ∧ c ≤ 'F' then some (c.toNat - 55)
  else none

/-- The number that hexadecimal digits spell. -/
def hexNumber? (digits : List Char) : Option Nat :=
  digits.foldlM (fun value c => (hexValue? c).map (value * 16 + ·)) 0

/-- What a backslash and a letter stand for. -/
def escapes : List (Char × Char) :=
  [('"', '"'), ('\\', '\\'), ('/', '/'), ('n', '\n'), ('r', '\r'), ('t', '\t'), ('b', '\x08'),
    ('f', '\x0c')]

/-- The code units of a text, up to the quote that closes it. -/
def readUnits : List Char → Option (List Nat × List Char)
  | [] => none
  | c :: rest =>
      if c = '"' then some ([], rest)
      else if c = '\\' then
        match rest with
        | 'u' :: a :: b :: c :: d :: rest =>
            (hexNumber? [a, b, c, d]).bind fun unit =>
              (readUnits rest).map (Prod.map (unit :: ·) id)
        | letter :: rest =>
            (escapes.lookup letter).bind fun character =>
              (readUnits rest).map (Prod.map (character.toNat :: ·) id)
        | [] => none
      else if c.toNat < 32 then none
      else (readUnits rest).map (Prod.map (c.toNat :: ·) id)

def isHighUnit (unit : Nat) : Bool := 0xD800 ≤ unit && unit < 0xDC00

def isLowUnit (unit : Nat) : Bool := 0xDC00 ≤ unit && unit < 0xE000

/-- The characters that code units stand for.  A half of a pair alone stands for none. -/
def joinUnits : List Nat → Option (List Char)
  | [] => some []
  | unit :: rest =>
      if isHighUnit unit then
        match rest with
        | low :: rest =>
            if isLowUnit low then
              (joinUnits rest).map
                (Char.ofNat (0x10000 + (unit - 0xD800) * 0x400 + (low - 0xDC00)) :: ·)
            else none
        | [] => none
      else if isLowUnit unit then none
      else (joinUnits rest).map (Char.ofNat unit :: ·)

/-- A text behind the quote that opens it. -/
def readText (text : List Char) : Option (String × List Char) := do
  let (units, rest) ← readUnits text
  let characters ← joinUnits units
  return (String.ofList characters, rest)

def isWordChar (c : Char) : Bool := c.isAlphanum || c == '.' || c == '+' || c == '-'

def readWhole (word : List Char) : Option Int :=
  let (negative, digits) := Decimal.takeSign word
  match Decimal.takeDigits digits 0 0 with
  | (value, count, []) =>
      if count == 0 then none else some (if negative then -(value : Int) else value)
  | _ => none

def isRealMark (c : Char) : Bool := c == '.' || c == 'e' || c == 'E'

/-- A point or an exponent makes a number real. -/
def readNumber (word : List Char) : Option Value :=
  if word.any isRealMark then (Decimal.readReal? (String.ofList word)).map .real
  else (readWhole word).map .whole

def constants : List (String × Value) :=
  [("null", .null), ("true", .flag true), ("false", .flag false), ("NaN", .real (0.0 / 0.0)),
    ("Infinity", .real (1.0 / 0.0)), ("-Infinity", .real (-1.0 / 0.0))]

def readWord (word : List Char) : Option Value :=
  (readNumber word).or (constants.lookup (String.ofList word))

section Series

variable {α : Type} (readItem : List Char → Option (α × List Char)) (closing : Char)

/-- Items with commas between them, up to the bracket that closes them. -/
def readItems : Nat → List Char → Option (List α × List Char)
  | 0, _ => none
  | most + 1, text => do
      let (item, rest) ← readItem text
      match skipBlanks rest with
      | c :: rest =>
          if c = ',' then (readItems most rest).map (Prod.map (item :: ·) id)
          else if c = closing then return ([item], rest)
          else none
      | [] => none

def readNoItems (text : List Char) : Option (List α × List Char) :=
  match skipBlanks text with
  | c :: rest => if c = closing then some ([], rest) else none
  | [] => none

def readSeries (text : List Char) : Option (List α × List Char) :=
  (readItems readItem closing text.length text).or (readNoItems closing text)

end Series

/-- A key, a colon and what stands under the key. -/
def readEntry (readItem : List Char → Option (Value × List Char)) (text : List Char) :
    Option ((Value × Value) × List Char) :=
  match skipBlanks text with
  | '"' :: rest => do
      let (key, rest) ← readText rest
      match skipBlanks rest with
      | ':' :: rest =>
          let (value, rest) ← readItem rest
          return ((.text key, value), rest)
      | _ => none
  | _ => none

/-- A value in which lists and mappings are nested no deeper than `depth`. -/
def readValue : Nat → List Char → Option (Value × List Char)
  | 0, _ => none
  | depth + 1, text =>
      match skipBlanks text with
      | '"' :: rest => (readText rest).map (Prod.map .text id)
      | '[' :: rest => (readSeries (readValue depth) ']' rest).map (Prod.map .list id)
      | '\x7b' :: rest =>
          (readSeries (readEntry (readValue depth)) '\x7d' rest).map (Prod.map .mapping id)
      | text =>
          (readWord (text.takeWhile isWordChar)).map fun v => (v, text.dropWhile isWordChar)

/-- The value that a text of JSON names. -/
def read (text : String) : Option Value :=
  match readValue text.length text.toList with
  | some (v, rest) => if rest.all isBlank then some v else none
  | none => none

/-! ### Texts -/

/-- Characters of ASCII that can be seen, the blank among them. -/
def isPrinted (c : Char) : Bool := ' ' ≤ c && c ≤ '~'

theorem isPrinted_iff {c : Char} : isPrinted c = true ↔ 32 ≤ c.toNat ∧ c.toNat < 127 := by
  simp only [isPrinted, Bool.and_eq_true, decide_eq_true_eq, Char.le_def, UInt32.le_iff_toNat_le]
  change 32 ≤ c.toNat ∧ c.toNat ≤ 126 ↔ _
  omega

/-- The code units of a character: one, or two beyond the basic plane. -/
def unitsOf (c : Char) : List Nat :=
  if c.toNat < 0x10000 then [c.toNat]
  else [0xD800 + (c.toNat - 0x10000) / 0x400, 0xDC00 + (c.toNat - 0x10000) % 0x400]

/-- A character is no half of a pair. -/
theorem scalar (c : Char) : c.toNat < 0xD800 ∨ 0xDFFF < c.toNat ∧ c.toNat < 0x110000 := c.valid

theorem joinUnits_unitsOf (c : Char) (units : List Nat) :
    joinUnits (unitsOf c ++ units) = (joinUnits units).map (c :: ·) := by
  have valid := scalar c
  have self : Char.ofNat c.toNat = c := Char.ofNat_toNat c
  unfold unitsOf
  split
  · have high : ¬ isHighUnit c.toNat = true := by
      simp only [isHighUnit, Bool.and_eq_true, decide_eq_true_eq]
      omega
    have low : ¬ isLowUnit c.toNat = true := by
      simp only [isLowUnit, Bool.and_eq_true, decide_eq_true_eq]
      omega
    rw [List.singleton_append, joinUnits.eq_def]
    dsimp only
    rw [if_neg high, if_neg low, self]
  · have high : isHighUnit (0xD800 + (c.toNat - 0x10000) / 0x400) = true := by
      simp only [isHighUnit, Bool.and_eq_true, decide_eq_true_eq]
      omega
    have low : isLowUnit (0xDC00 + (c.toNat - 0x10000) % 0x400) = true := by
      simp only [isLowUnit, Bool.and_eq_true, decide_eq_true_eq]
      omega
    have code : 0x10000 + (0xD800 + (c.toNat - 0x10000) / 0x400 - 0xD800) * 0x400 +
        (0xDC00 + (c.toNat - 0x10000) % 0x400 - 0xDC00) = c.toNat := by omega
    rw [List.cons_append, List.cons_append, joinUnits, if_pos high, if_pos low, code, self,
      List.nil_append]

example : unitsOf '😀' = [0xD83D, 0xDE00] ∧ joinUnits [0xD83D, 0xDE00] = some ['😀'] := by decide

theorem hexDigits_four (n : Nat) : Text.hexDigits 4 n =
    [Text.hexDigit (n / 16 / 16 / 16 % 16), Text.hexDigit (n / 16 / 16 % 16),
      Text.hexDigit (n / 16 % 16), Text.hexDigit (n % 16)] := rfl

theorem hexValue?_hexDigit {n : Nat} (below : n < 16) : hexValue? (Text.hexDigit n) = some n := by
  interval_cases n <;> rfl

theorem isPrinted_hexDigit {n : Nat} (below : n < 16) : isPrinted (Text.hexDigit n) = true := by
  interval_cases n <;> rfl

theorem hexNumber?_hexDigits {n : Nat} (below : n < 0x10000) :
    hexNumber? (Text.hexDigits 4 n) = some n := by
  have digit (m : Nat) : hexValue? (Text.hexDigit (m % 16)) = some (m % 16) :=
    hexValue?_hexDigit (Nat.mod_lt m (by decide))
  simp only [hexNumber?, hexDigits_four, List.foldlM_cons, List.foldlM_nil, digit, Option.map_some,
    Option.bind_eq_bind, Option.bind_some, Option.pure_def, Option.some.injEq]
  omega

theorem readUnits_unitEscape {unit : Nat} (below : unit < 0x10000) (rest : List Char) :
    readUnits (unitEscape unit ++ rest) = (readUnits rest).map (Prod.map (unit :: ·) id) := by
  have number := hexNumber?_hexDigits below
  rw [hexDigits_four] at number
  rw [unitEscape, hexDigits_four, readUnits.eq_def]
  simp only [List.cons_append, List.nil_append]
  rw [if_neg (by decide), if_pos trivial, number, Option.bind_some]

theorem escapes_plain : ∀ p ∈ escapes, isPrinted p.1 = true ∧ p.2.toNat < 0x10000 := by
  decide

theorem mem_escapes {letter c : Char} (known : escapes.lookup letter = some c) :
    (letter, c) ∈ escapes := by
  obtain ⟨front, behind, split, -⟩ := List.lookup_eq_some_iff.mp known
  rw [split]
  exact List.mem_append_right _ (.head _)

theorem readUnits_letter {letter character : Char} (known : escapes.lookup letter = some character)
    (rest : List Char) :
    readUnits ('\\' :: letter :: rest) =
      (readUnits rest).map (Prod.map (character.toNat :: ·) id) := by
  rw [readUnits.eq_def]
  dsimp only
  rw [if_neg (by decide), if_pos rfl]
  split
  · rename_i same
    cases same
    cases known
  · rename_i same
    cases same
    rw [known, Option.bind_some]
  · rename_i same
    cases same

theorem readUnits_plain {c : Char} (printed : isPrinted c = true) (noQuote : c ≠ '"')
    (noBackslash : c ≠ '\\') (rest : List Char) :
    readUnits (c :: rest) = (readUnits rest).map (Prod.map (c.toNat :: ·) id) := by
  have least : ¬ c.toNat < 32 := not_lt.mpr (isPrinted_iff.mp printed).1
  rw [readUnits.eq_def]
  dsimp only
  rw [if_neg noQuote, if_neg noBackslash, if_neg least]

/-- How a character can be written. -/
theorem escapeChar_cases (c : Char) :
    (∃ letter, escapeChar c = ['\\', letter] ∧ escapes.lookup letter = some c) ∨
    (escapeChar c = [c] ∧ isPrinted c = true ∧ c ≠ '"' ∧ c ≠ '\\') ∨
    (escapeChar c = unitEscape c.toNat ∧ c.toNat < 0x10000) ∨
    (escapeChar c = unitEscape (0xD800 + (c.toNat - 0x10000) / 0x400) ++
        unitEscape (0xDC00 + (c.toNat - 0x10000) % 0x400) ∧ 0x10000 ≤ c.toNat) := by
  by_cases special : c ∈ ['"', '\\', '\n', '\r', '\t', '\x08', '\x0c']
  · left
    simp only [List.mem_cons, List.not_mem_nil, or_false] at special
    rcases special with rfl | rfl | rfl | rfl | rfl | rfl | rfl <;> exact ⟨_, rfl, rfl⟩
  · right
    simp only [List.mem_cons, List.not_mem_nil, or_false, not_or] at special
    obtain ⟨noQuote, noBackslash, noEnd, noReturn, noTab, noBackspace, noFeed⟩ := special
    unfold escapeChar
    simp only [beq_iff_eq, noQuote, noBackslash, noEnd, noReturn, noTab, noBackspace, noFeed,
      if_false, Bool.and_eq_true, decide_eq_true_eq, ← isPrinted_iff]
    by_cases printed : isPrinted c = true
    · exact .inl ⟨if_pos printed, printed, noQuote, noBackslash⟩
    · rw [if_neg printed]
      by_cases narrow : c.toNat < 0x10000
      · exact .inr (.inl ⟨if_pos narrow, narrow⟩)
      · exact .inr (.inr ⟨if_neg narrow, not_lt.mp narrow⟩)

/-- An escaped character is read as its code units. -/
theorem readUnits_escapeChar (c : Char) (rest : List Char) :
    readUnits (escapeChar c ++ rest) = (readUnits rest).map (Prod.map (unitsOf c ++ ·) id) := by
  have most := scalar c
  obtain ⟨letter, written, known⟩ | ⟨written, printed, noQuote, noBackslash⟩ |
    ⟨written, narrow⟩ | ⟨written, wide⟩ := escapeChar_cases c
  · rw [written, unitsOf, if_pos (escapes_plain _ (mem_escapes known)).2]
    exact readUnits_letter known rest
  · have narrow : c.toNat < 0x10000 := by
      have most := (isPrinted_iff.mp printed).2
      omega
    rw [written, unitsOf, if_pos narrow]
    exact readUnits_plain printed noQuote noBackslash rest
  · rw [written, unitsOf, if_pos narrow]
    exact readUnits_unitEscape narrow rest
  · rw [written, List.append_assoc, readUnits_unitEscape (by omega),
      readUnits_unitEscape (by omega), unitsOf, if_neg (not_lt.mpr wide), Option.map_map]
    rfl

theorem isPrinted_of_mem_unitEscape {unit : Nat} {c : Char} (member : c ∈ unitEscape unit) :
    isPrinted c = true := by
  have digit (n : Nat) : isPrinted (Text.hexDigit (n % 16)) = true :=
    isPrinted_hexDigit (Nat.mod_lt n (by decide))
  rw [unitEscape, hexDigits_four] at member
  simp only [List.mem_cons, List.not_mem_nil, or_false] at member
  rcases member with rfl | rfl | rfl | rfl | rfl | rfl
  · rfl
  · rfl
  all_goals exact digit _

/-- Whatever a text holds, what is written of it can be seen. -/
theorem isPrinted_of_mem_escapeChar {c d : Char} (member : d ∈ escapeChar c) :
    isPrinted d = true := by
  obtain ⟨letter, written, known⟩ | ⟨written, printed, -, -⟩ | ⟨written, -⟩ | ⟨written, -⟩ :=
    escapeChar_cases c
  all_goals rw [written] at member
  · simp only [List.mem_cons, List.not_mem_nil, or_false] at member
    rcases member with rfl | rfl
    · rfl
    · exact (escapes_plain _ (mem_escapes known)).1
  · rwa [List.mem_singleton.mp member]
  · exact isPrinted_of_mem_unitEscape member
  · exact (List.mem_append.mp member).elim isPrinted_of_mem_unitEscape isPrinted_of_mem_unitEscape

/-- Escaped characters up to the closing quote are read as their code units. -/
theorem readUnits_escaped (cs rest : List Char) :
    readUnits (cs.flatMap escapeChar ++ '"' :: rest) = some (cs.flatMap unitsOf, rest) := by
  induction cs with
  | nil => exact readUnits.eq_def _
  | cons c cs ih =>
      rw [List.flatMap_cons, List.append_assoc, readUnits_escapeChar, ih]
      rfl

theorem joinUnits_flatMap (cs : List Char) : joinUnits (cs.flatMap unitsOf) = some cs := by
  induction cs with
  | nil => rfl
  | cons c cs ih => rw [List.flatMap_cons, joinUnits_unitsOf, ih, Option.map_some]

theorem toList_jsonString (s : String) :
    (jsonString s).toList = '"' :: (s.toList.flatMap escapeChar ++ ['"']) := by
  simp [jsonString]

/-- A text is read back from between its quotes. -/
theorem readText_jsonString (s : String) (rest : List Char) :
    readText (s.toList.flatMap escapeChar ++ '"' :: rest) = some (s, rest) := by
  simp [readText, readUnits_escaped, joinUnits_flatMap]

theorem isPrinted_of_mem_jsonString {s : String} {c : Char} (member : c ∈ (jsonString s).toList) :
    isPrinted c = true := by
  simp only [toList_jsonString, List.mem_cons, List.mem_append, List.mem_flatMap,
    List.not_mem_nil, or_false] at member
  obtain rfl | ⟨d, -, escaped⟩ | rfl := member
  · rfl
  · exact isPrinted_of_mem_escapeChar escaped
  · rfl

/-! ### Numbers and words -/

/-- A word goes on no further in front of this. -/
def Ends (rest : List Char) : Prop := ∀ c, rest.head? = some c → isWordChar c = false

theorem takeWhile_word {word rest : List Char} (plain : ∀ c ∈ word, isWordChar c = true)
    (ends : Ends rest) : (word ++ rest).takeWhile isWordChar = word := by
  cases rest with
  | nil => rw [List.append_nil, List.takeWhile_eq_self_iff.mpr plain]
  | cons c rest =>
      rw [List.takeWhile_append_of_pos plain, List.takeWhile_cons, ends c rfl,
        if_neg Bool.false_ne_true, List.append_nil]

theorem dropWhile_word {word rest : List Char} (plain : ∀ c ∈ word, isWordChar c = true)
    (ends : Ends rest) : (word ++ rest).dropWhile isWordChar = rest := by
  rw [List.dropWhile_append_of_pos plain]
  cases rest with
  | nil => rfl
  | cons c rest => rw [List.dropWhile_cons, ends c rfl, if_neg Bool.false_ne_true]

theorem any_isRealMark_of_numeral (negative : Bool) {body : List Char} {digits : Nat}
    {exponent : Int} (numeral : Decimal.Numeral body digits exponent) :
    (Decimal.signedText negative body).any isRealMark = true := by
  have within : ∀ c ∈ body, c ∈ Decimal.signedText negative body := by
    intro c member
    cases negative <;> simp [Decimal.signedText, member]
  rw [List.any_eq_true]
  rcases numeral.marked with point | scale
  · exact ⟨'.', within _ point, rfl⟩
  · exact ⟨'e', within _ scale, rfl⟩

/-- A finite double is read back as the double it is, and as no whole number. -/
theorem readNumber_natural {x : Float} {negative narrowBelow : Bool} {mantissa : Nat}
    {exponent : Int}
    (expanded : Decimal.Expansion.of x = .finite negative mantissa exponent narrowBelow) :
    readNumber (Decimal.natural x).toList = some (.real x) := by
  obtain ⟨body, digits, place, written, numeral, -⟩ := Decimal.natural_of_finite expanded
  have marked := any_isRealMark_of_numeral negative numeral
  rw [← @String.toList_ofList (Decimal.signedText negative body), ← written] at marked
  rw [readNumber, if_pos marked, String.ofList_toList, Decimal.readReal?_natural expanded]
  rfl

theorem toList_toString (n : Int) :
    (toString n).toList = Decimal.signedText (decide (n < 0)) (Decimal.digitsOf n.natAbs) := by
  cases n with
  | ofNat n => rfl
  | negSucc n =>
      have written : toString (Int.negSucc n) = "-" ++ toString (n + 1) := rfl
      rw [written, String.toList_append, Decimal.signedText, if_pos (by simp), Decimal.digitsOf]
      rfl

theorem digit_of_mem_signedText {negative : Bool} {digits : List Char} {c : Char}
    (plain : ∀ c ∈ digits, c.isDigit = true) (member : c ∈ Decimal.signedText negative digits) :
    c = '-' ∨ c.isDigit = true := by
  cases negative with
  | true => exact (List.mem_cons.mp member).imp_right (plain c)
  | false => exact .inr (plain c member)

theorem readNumber_whole (n : Int) : readNumber (toString n).toList = some (.whole n) := by
  have plain : ∀ c ∈ Decimal.digitsOf n.natAbs, c.isDigit = true :=
    fun c => Decimal.isDigit_of_mem_digitsOf
  have unmarked : ¬ (Decimal.signedText (decide (n < 0))
      (Decimal.digitsOf n.natAbs)).any isRealMark = true := by
    rw [List.any_eq_true]
    rintro ⟨c, member, marks⟩
    simp only [isRealMark, Bool.or_eq_true, beq_iff_eq] at marks
    rcases digit_of_mem_signedText plain member with rfl | digit
    · revert marks
      decide
    · rcases marks with (rfl | rfl) | rfl <;> cases digit
  have signed : Decimal.takeSign (Decimal.signedText (decide (n < 0))
      (Decimal.digitsOf n.natAbs)) = (decide (n < 0), Decimal.digitsOf n.natAbs) := by
    obtain ⟨c, rest, starts⟩ := List.exists_cons_of_ne_nil (Decimal.digitsOf_ne_nil n.natAbs)
    rw [starts] at plain ⊢
    exact Decimal.takeSign_signedText (plain c (.head _))
  have given : ¬ ((Decimal.digitsOf n.natAbs).length == 0) = true := by
    simp [Decimal.digitsOf_ne_nil]
  rw [toList_toString, readNumber, if_neg unmarked, readWhole, signed]
  dsimp only
  rw [Decimal.takeDigits_all plain, Decimal.ofDigitChars_digitsOf]
  dsimp only
  rw [if_neg given, Option.map_some]
  congr 2
  simp only [decide_eq_true_eq]
  split <;> omega

theorem isWordChar_of_isNumeralChar {c : Char} (numeral : Decimal.isNumeralChar c = true) :
    isWordChar c = true := by
  simp only [Decimal.isNumeralChar, Bool.or_eq_true, beq_iff_eq] at numeral
  rcases numeral with (((digit | rfl) | rfl) | rfl) | rfl
  · simp [isWordChar, Char.isAlphanum, digit]
  all_goals rfl

theorem bounds_of_isWordChar {c : Char} (word : isWordChar c = true) :
    33 ≤ c.toNat ∧ c.toNat < 127 := by
  simp only [isWordChar, Char.isAlphanum, Char.isAlpha, Char.isUpper, Char.isLower,
    Bool.or_eq_true, Char.isDigit_iff_toNat, beq_iff_eq, Bool.and_eq_true, decide_eq_true_eq,
    ge_iff_le, UInt32.le_iff_toNat_le] at word
  rcases word with (((((⟨least, most⟩ | ⟨least, most⟩) | ⟨least, most⟩) | rfl) | rfl) | rfl)
  · change 65 ≤ c.toNat at least
    change c.toNat ≤ 90 at most
    omega
  · change 97 ≤ c.toNat at least
    change c.toNat ≤ 122 at most
    omega
  · change 48 ≤ c.toNat at least
    change c.toNat ≤ 57 at most
    omega
  all_goals decide

theorem not_isBlank_of_isWordChar {c : Char} (word : isWordChar c = true) : isBlank c = false := by
  have least := (bounds_of_isWordChar word).1
  simp only [isBlank, Bool.or_eq_false_iff, beq_eq_false_iff_ne]
  refine ⟨⟨⟨?_, ?_⟩, ?_⟩, ?_⟩ <;> rintro rfl <;> exact absurd least (by decide)

theorem isWordChar_constants :
    ∀ p ∈ constants, p.1.toList ≠ [] ∧ ∀ c ∈ p.1.toList, isWordChar c = true := by
  have plain : (constants.all fun p => !p.1.toList.isEmpty && p.1.toList.all isWordChar) =
      true := by decide +kernel
  simpa using plain

theorem readNumber_constants : ∀ p ∈ constants, (readNumber p.1.toList).isNone = true := by
  decide +kernel

theorem readWord_constants : ∀ p ∈ constants, readWord p.1.toList = some p.2 := by
  intro p member
  have noNumber := Option.isNone_iff_eq_none.mp (readNumber_constants p member)
  rw [readWord, noNumber, Option.none_or, String.ofList_toList]
  simp only [constants, List.mem_cons, List.not_mem_nil, or_false] at member
  rcases member with rfl | rfl | rfl | rfl | rfl | rfl <;> rfl

/-! ### Values, by their first character -/

section Opening

variable (depth : Nat) (rest : List Char)

theorem readValue_quote :
    readValue (depth + 1) ('"' :: rest) = (readText rest).map (Prod.map .text id) :=
  rfl

theorem readValue_bracket :
    readValue (depth + 1) ('[' :: rest) =
      (readSeries (readValue depth) ']' rest).map (Prod.map .list id) :=
  rfl

theorem readValue_brace :
    readValue (depth + 1) ('\x7b' :: rest) =
      (readSeries (readEntry (readValue depth)) '\x7d' rest).map (Prod.map .mapping id) :=
  rfl

end Opening

theorem skipBlanks_cons {c : Char} (apart : isBlank c = false) (rest : List Char) :
    skipBlanks (c :: rest) = c :: rest := by
  rw [skipBlanks, List.dropWhile_cons, apart, if_neg Bool.false_ne_true]

theorem readValue_word {word rest : List Char} (given : word ≠ [])
    (plain : ∀ c ∈ word, isWordChar c = true) (ends : Ends rest) (depth : Nat) :
    readValue (depth + 1) (word ++ rest) = (readWord word).map fun v => (v, rest) := by
  obtain ⟨c, front, rfl⟩ := List.exists_cons_of_ne_nil given
  have first : isWordChar c = true := plain c (.head _)
  have apart : ∀ d text, isWordChar d = false → c :: front ++ rest ≠ d :: text := by
    rintro d text other same
    cases same
    exact absurd first (ne_true_of_eq_false other)
  rw [readValue, List.cons_append, skipBlanks_cons (not_isBlank_of_isWordChar first)]
  split
  · exact absurd ‹_› (apart _ _ rfl)
  · exact absurd ‹_› (apart _ _ rfl)
  · exact absurd ‹_› (apart _ _ rfl)
  · rw [← List.cons_append, takeWhile_word plain ends, dropWhile_word plain ends]

end CacheSteward.Json
