namespace CacheSteward.Spec

/-! Names of instances. -/

/-- The ideographs allowed in names. -/
def isIdeograph (c : Char) : Bool := 0x4E00 ≤ c.toNat && c.toNat ≤ 0x9FA5

def isNameStart (c : Char) : Bool := c.isAlpha || isIdeograph c

def isNamePart (c : Char) : Bool :=
  c.isAlphanum || isIdeograph c || c == '-' || c == '_' || c == '/' || c == '.'

/-- A start and up to 64 further characters. -/
def isPlainName : List Char → Bool
  | [] => false
  | c :: rest => isNameStart c && rest.all isNamePart && rest.length ≤ 64

/-- A text is taken as a name when it is one, also when a single line end follows. -/
def isName (s : String) : Bool :=
  isPlainName s.toList ||
    (s.toList.getLast? == some '\n' && isPlainName s.toList.dropLast)

end CacheSteward.Spec
