import CacheSteward.Document.Problem

namespace CacheSteward.Document

/-! A place in a document together with what is still to be read there.

Looking beyond the end shows the character NUL, which no document holds.
-/

def theEnd : Char := '\x00'

def isBreak (c : Char) : Bool := c == '\n' || c == '\x85' || c == '\u2028' || c == '\u2029'

def isBreakOrEnd (c : Char) : Bool := c == theEnd || isBreak c

def isSpaceOrBreakOrEnd (c : Char) : Bool := c == ' ' || isBreakOrEnd c

def isGap (c : Char) : Bool := c == '\t' || isSpaceOrBreakOrEnd c

/-- A mark that may stand in front of a document and has no width. -/
def byteOrderMark : Char := '\uFEFF'

structure Cursor where
  rest : List Char
  index : Nat
  line : Nat
  column : Nat
deriving Repr, DecidableEq

namespace Cursor

def ofText (cs : List Char) : Cursor := ⟨cs, 0, 0, 0⟩

def mark (cursor : Cursor) : Mark := ⟨cursor.line, cursor.column⟩

def ahead (n : Nat) (cursor : Cursor) : Char := cursor.rest[n]?.getD theEnd

def peek (cursor : Cursor) : Char := cursor.rest.headD theEnd

def next (cursor : Cursor) : Cursor :=
  match cursor.rest with
  | [] => cursor
  | c :: rest =>
      if isBreak c then ⟨rest, cursor.index + 1, cursor.line + 1, 0⟩
      else if c == byteOrderMark then ⟨rest, cursor.index + 1, cursor.line, cursor.column⟩
      else ⟨rest, cursor.index + 1, cursor.line, cursor.column + 1⟩

def skip : Nat → Cursor → Cursor
  | 0, cursor => cursor
  | n + 1, cursor => skip n cursor.next

def spanWhile (p : Char → Bool) (cursor : Cursor) : List Char := cursor.rest.takeWhile p

def skipWhile (p : Char → Bool) (cursor : Cursor) : Cursor :=
  cursor.skip (cursor.spanWhile p).length

def skipBlanksTo (column : Nat) (cursor : Cursor) : Cursor :=
  cursor.skip (min (cursor.spanWhile (· == ' ')).length (column - cursor.column))

def skipComment (cursor : Cursor) : Cursor :=
  if cursor.peek == '#' then cursor.skipWhile fun c => !isBreakOrEnd c else cursor

/-- Takes the end of a line, when it comes next, and says what it stands for: the separators of
lines and of paragraphs for themselves, any other for a plain line end. -/
def takeBreak (cursor : Cursor) : List Char × Cursor :=
  let c := cursor.peek
  if c == '\n' || c == '\x85' then (['\n'], cursor.next)
  else if c == '\u2028' || c == '\u2029' then ([c], cursor.next)
  else ([], cursor)

/-- Three dashes or three points in front of a gap separate documents. -/
def atSeparator (cursor : Cursor) : Bool :=
  let front := cursor.rest.take 3
  (front == ['-', '-', '-'] || front == ['.', '.', '.']) && isGap (cursor.ahead 3)

end Cursor

end CacheSteward.Document
