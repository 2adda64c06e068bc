import CacheSteward.Document.Meaning

namespace CacheSteward.Document

/-! Documents written by people: a mapping, a list or a single value in block or bracket form.

Files are text.  Every line ends the same way once a document is read, whatever the system that
wrote it.
-/

def unifyLines : List Char → List Char
  | '\r' :: '\n' :: rest => '\n' :: unifyLines rest
  | '\r' :: rest => '\n' :: unifyLines rest
  | c :: rest => c :: unifyLines rest
  | [] => []

def isAcceptable (c : Char) : Bool :=
  let n := c.toNat
  n == 9 || n == 10 || n == 13 || (0x20 ≤ n && n ≤ 0x7E) || n == 0x85 ||
    (0xA0 ≤ n && n ≤ 0xD7FF) || (0xE000 ≤ n && n ≤ 0xFFFD) || 0x10000 ≤ n

def unacceptable? (cs : List Char) : Option (Nat × Char) :=
  (cs.findIdx? fun c => !isAcceptable c).bind fun position =>
    cs[position]?.map (position, ·)

def codeText (n : Nat) : String :=
  let digits := Nat.toDigits 16 n
  String.ofList (List.replicate (4 - digits.length) '0' ++ digits)

def unacceptableFault (name : String) (position : Nat) (c : Char) : Fault :=
  .plain .document [.text ("unacceptable character #x" ++ codeText c.toNat ++
    ": special characters are not allowed\n  in \"" ++ name ++ "\", position " ++
    toString position)]

/-- The value of a document; null when there is nothing in it.  `name` is what problems call the
document. -/
def read (name text : String) : Except Fault Value :=
  let cs := unifyLines text.toList
  match unacceptable? cs with
  | some (position, c) => .error (unacceptableFault name position c)
  | none =>
      let meaning : Except Flaw Value := do
        match ← Node.ofText cs with
        | some root =>
            root.check
            return root.value
        | none => return .null
      meaning.mapError (Flaw.fault name)

def readMapping (name text : String) : Except Fault Value := do
  match ← read name text with
  | .mapping entries => return .mapping entries
  | _ => throw (.validation (name ++ " must contain a mapping at the top level") none .null)

end CacheSteward.Document
