namespace CacheSteward.Text

/-! Decimal digits of every script, as the Unicode property `Nd` lists them. -/

/-- The zero of each script's ten consecutive decimal digits, in ascending order. -/
def digitZeros : List Nat :=
  [ 0x30, 0x660, 0x6F0, 0x7C0, 0x966, 0x9E6, 0xA66, 0xAE6, 0xB66, 0xBE6,
    0xC66, 0xCE6, 0xD66, 0xDE6, 0xE50, 0xED0, 0xF20, 0x1040, 0x1090, 0x17E0,
    0x1810, 0x1946, 0x19D0, 0x1A80, 0x1A90, 0x1B50, 0x1BB0, 0x1C40, 0x1C50, 0xA620,
    0xA8D0, 0xA900, 0xA9D0, 0xA9F0, 0xAA50, 0xABF0, 0xFF10, 0x104A0, 0x10D30, 0x11066,
    0x110F0, 0x11136, 0x111D0, 0x112F0, 0x11450, 0x114D0, 0x11650, 0x116C0, 0x11730, 0x118E0,
    0x11950, 0x11C50, 0x11D50, 0x11DA0, 0x16A60, 0x16AC0, 0x16B50, 0x1D7CE, 0x1D7D8, 0x1D7E2,
    0x1D7EC, 0x1D7F6, 0x1E140, 0x1E2F0, 0x1E950, 0x1FBF0 ]

def digitValue? (c : Char) : Option Nat :=
  if c.toNat < 128 then
    if c.isDigit then some (c.toNat - 48) else none
  else
    (digitZeros.find? fun start => start ≤ c.toNat && c.toNat < start + 10).map (c.toNat - ·)

/-- Characters that separate words without being visible, outside the ASCII range. -/
def isWideBlank (c : Char) : Bool :=
  let n := c.toNat
  n == 0x85 || n == 0xA0 || n == 0x1680 || (0x2000 ≤ n && n ≤ 0x200A) ||
    n == 0x2028 || n == 0x2029 || n == 0x202F || n == 0x205F || n == 0x3000

def isNumberBlank (c : Char) : Bool :=
  c == ' ' || (9 ≤ c.toNat && c.toNat ≤ 13) || isWideBlank c

/-- Every blank, the separators of the ASCII control range included. -/
def isBlank (c : Char) : Bool :=
  isNumberBlank c || (0x1C ≤ c.toNat && c.toNat ≤ 0x1F)

theorem not_isBlank_of_visible {c : Char} (least : 33 ≤ c.toNat) (most : c.toNat < 127) :
    isBlank c = false := by
  have space : c ≠ ' ' := by
    rintro rfl
    exact absurd least (by decide)
  simp only [isBlank, isNumberBlank, isWideBlank, Bool.or_eq_false_iff, Bool.and_eq_false_iff,
    decide_eq_false_iff_not, beq_eq_false_iff_ne]
  refine ⟨⟨⟨space, ?_⟩, ?_⟩, ?_⟩ <;> omega

def trimLeftWhile (p : Char → Bool) (cs : List Char) : List Char := cs.dropWhile p

def trimRightWhile (p : Char → Bool) (cs : List Char) : List Char :=
  (cs.reverse.dropWhile p).reverse

def trimWhile (p : Char → Bool) (cs : List Char) : List Char :=
  trimRightWhile p (trimLeftWhile p cs)

theorem trimWhile_eq_self {p : Char → Bool} {cs : List Char} (kept : ∀ c ∈ cs, p c = false) :
    trimWhile p cs = cs := by
  have keeps : ∀ ds : List Char, (∀ d ∈ ds, p d = false) → ds.dropWhile p = ds := by
    intro ds kept
    cases ds with
    | nil => rfl
    | cons d rest => rw [List.dropWhile_cons, kept d (.head _), if_neg Bool.false_ne_true]
  have keepsEnd := keeps cs.reverse fun c member => kept c (List.mem_reverse.mp member)
  rw [trimWhile, trimLeftWhile, keeps cs kept, trimRightWhile, keepsEnd, List.reverse_reverse]

def trimBlanks (s : String) : String := String.ofList (trimWhile isBlank s.toList)

end CacheSteward.Text
