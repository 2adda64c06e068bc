import CacheSteward.Document.Cursor

namespace CacheSteward.Document

/-! Reading scalars: plain ones, quoted ones, and block ones.

A line end inside a scalar is folded: alone it becomes a blank, and of several the first is
dropped.  Block scalars in literal style keep their line ends.
-/

/-- What a run of line ends folds to. -/
def fold (first : List Char) (others : List Char) : List Char :=
  if first != ['\n'] then first ++ others
  else if others.isEmpty then [' '] else others

/-! ### Plain scalars -/

/-- One word of a plain scalar.  It ends at a gap, at a colon before a gap, and inside brackets
also at the characters that separate items there. -/
def plainWord (inFlow : Bool) : List Char → List Char
  | [] => []
  | c :: rest =>
      let after := rest.headD theEnd
      let endsHere := isGap c ||
        (c == ':' && (isGap after || (inFlow && ",[]\x7b\x7d".contains after))) ||
        (inFlow && ",?[]\x7b\x7d".contains c)
      if endsHere then [] else c :: plainWord inFlow rest

structure PlainGap where
  /-- What the gap folds to; nothing when a separator of documents follows. -/
  folded : Option (List Char)
  cursor : Cursor
  newLine : Bool

/-- Blanks and line ends after the first line end of a gap; nothing at a separator of documents. -/
def plainBreaks : Nat → Cursor → List Char → Option (List Char) × Cursor
  | 0, cursor, breaks => (some breaks, cursor)
  | fuel + 1, cursor, breaks =>
      if cursor.peek == ' ' then plainBreaks fuel cursor.next breaks
      else if isBreak cursor.peek then
        let (taken, cursor) := cursor.takeBreak
        if cursor.atSeparator then (none, cursor) else plainBreaks fuel cursor (breaks ++ taken)
      else (some breaks, cursor)

def plainGap (cursor : Cursor) : PlainGap :=
  let blanks := cursor.spanWhile (· == ' ')
  let cursor := cursor.skipWhile (· == ' ')
  if isBreak cursor.peek then
    let (first, cursor) := cursor.takeBreak
    if cursor.atSeparator then ⟨none, cursor, true⟩
    else
      let (others, cursor) := plainBreaks cursor.rest.length cursor []
      ⟨others.map (fold first), cursor, true⟩
  else ⟨some blanks, cursor, false⟩

structure PlainScalar where
  text : List Char
  stop : Mark
  cursor : Cursor
  /-- The scalar was followed by another line, where a key may start. -/
  newLine : Bool

/-- Reads words as long as they belong to the scalar.  `indent` is the least column of the lines
that go on with it. -/
def plainWords (inFlow : Bool) (indent : Nat) : Nat → PlainScalar → List Char → PlainScalar
  | 0, scalar, _ => scalar
  | fuel + 1, scalar, gap =>
      if scalar.cursor.peek == '#' then scalar
      else
        let word := plainWord inFlow scalar.cursor.rest
        if word.isEmpty then scalar
        else
          let cursor := scalar.cursor.skip word.length
          let after := plainGap cursor
          let scalar : PlainScalar :=
            ⟨scalar.text ++ gap ++ word, cursor.mark, after.cursor, after.newLine⟩
          match after.folded with
          | none => scalar
          | some gap =>
              if gap.isEmpty || after.cursor.peek == '#' ||
                  (!inFlow && after.cursor.column < indent) then scalar
              else plainWords inFlow indent fuel scalar gap

def plainScalar (inFlow : Bool) (indent : Nat) (cursor : Cursor) : PlainScalar :=
  plainWords inFlow indent (cursor.rest.length + 1) ⟨[], cursor.mark, cursor, false⟩ []

/-! ### Quoted scalars -/

def escapes : List (Char × Char) :=
  [('0', '\x00'), ('a', '\x07'), ('b', '\x08'), ('t', '\t'), ('\t', '\t'), ('n', '\n'),
    ('v', '\x0b'), ('f', '\x0c'), ('r', '\r'), ('e', '\x1b'), (' ', ' '), ('"', '"'),
    ('\\', '\\'), ('/', '/'), ('N', '\x85'), ('_', '\xa0'), ('L', '\u2028'), ('P', '\u2029')]

def escapeWidth? (c : Char) : Option Nat :=
  if c == 'x' then some 2 else if c == 'u' then some 4 else if c == 'U' then some 8 else none

def hexDigitValue? (c : Char) : Option Nat :=
  if '0' ≤ c ∧ c ≤ '9' then some (c.toNat - 48)
  else if 'a' ≤ c ∧ c ≤ 'f' then some (c.toNat - 87)
  else if 'A' ≤ c ∧ c ≤ 'F' then some (c.toNat - 55)
  else none

/-- The number that the next `width` hexadecimal digits spell, or the first character that is
none. -/
def hexNumber (width : Nat) (cursor : Cursor) : Except Char Nat :=
  (List.range width).foldlM (fun value k =>
    match hexDigitValue? (cursor.ahead k) with
    | some digit => .ok (16 * value + digit)
    | none => .error (cursor.ahead k)) 0

def characterOf (code : Nat) : Except Flaw Char :=
  if code < 0x110000 then .ok (Char.ofNat code)
  else if code < Nat.pow 2 31 then
    .error (.meaningless (.plain .value [.text "chr() arg not in range(0x110000)"]))
  else .error (.meaningless (.plain .overflow [.text "Python int too large to convert to C int"]))

def quotedBreaks (start : Mark) : Nat → Cursor → List Char → Except Flaw (List Char × Cursor)
  | 0, cursor, breaks => .ok (breaks, cursor)
  | fuel + 1, cursor, breaks =>
      if cursor.atSeparator then
        fail (.scanning .quoted) start .documentSeparator cursor.mark
      else
        let cursor := cursor.skipWhile fun c => c == ' ' || c == '\t'
        if isBreak cursor.peek then
          let (taken, cursor) := cursor.takeBreak
          quotedBreaks start fuel cursor (breaks ++ taken)
        else .ok (breaks, cursor)

def quotedGap (start : Mark) (cursor : Cursor) : Except Flaw (List Char × Cursor) :=
  let isBlank (c : Char) : Bool := c == ' ' || c == '\t'
  let blanks := cursor.spanWhile isBlank
  let cursor := cursor.skipWhile isBlank
  if cursor.peek == theEnd then
    fail (.scanning .quoted) start .endOfStream cursor.mark
  else if isBreak cursor.peek then
    let (first, cursor) := cursor.takeBreak
    (quotedBreaks start (cursor.rest.length + 1) cursor []).map fun (others, cursor) =>
      (fold first others, cursor)
  else .ok (blanks, cursor)

def quotedEscape (start : Mark) (cursor : Cursor) : Except Flaw (List Char × Cursor) :=
  let c := cursor.peek
  match escapes.lookup c, escapeWidth? c with
  | some replacement, _ => .ok ([replacement], cursor.next)
  | none, some width =>
      let cursor := cursor.next
      match hexNumber width cursor with
      | .ok code => (characterOf code).map fun c => ([c], cursor.skip width)
      | .error found =>
          fail (.scanning .doubleQuoted) start (.expected ("escape sequence of " ++
            toString width ++ " hexadecimal numbers") found) cursor.mark
  | none, none =>
      if isBreak c then
        let (_, cursor) := cursor.takeBreak
        quotedBreaks start (cursor.rest.length + 1) cursor []
      else fail (.scanning .doubleQuoted) start (.unknownEscape c) cursor.mark

def quotedWord (double : Bool) (start : Mark) : Nat → Cursor → List Char →
    Except Flaw (List Char × Cursor)
  | 0, cursor, word => .ok (word, cursor)
  | fuel + 1, cursor, word =>
      let isUsual (c : Char) : Bool := !isGap c && c != '\'' && c != '"' && c != '\\'
      let usual := cursor.spanWhile isUsual
      let cursor := cursor.skip usual.length
      let word := word ++ usual
      let c := cursor.peek
      if !double && c == '\'' && cursor.ahead 1 == '\'' then
        quotedWord double start fuel (cursor.skip 2) (word ++ ['\''])
      else if (double && c == '\'') || (!double && (c == '"' || c == '\\')) then
        quotedWord double start fuel cursor.next (word ++ [c])
      else if double && c == '\\' then do
        let (meant, cursor) ← quotedEscape start cursor.next
        quotedWord double start fuel cursor (word ++ meant)
      else .ok (word, cursor)

def quotedWords (double : Bool) (start : Mark) : Nat → Cursor → List Char →
    Except Flaw (List Char × Cursor)
  | 0, cursor, done => .ok (done, cursor)
  | fuel + 1, cursor, done => do
      let (word, cursor) ← quotedWord double start (cursor.rest.length + 1) cursor []
      let done := done ++ word
      if cursor.peek == (if double then '"' else '\'') then return (done, cursor.next)
      else
        let (gap, cursor) ← quotedGap start cursor
        quotedWords double start fuel cursor (done ++ gap)

def quotedScalar (double : Bool) (cursor : Cursor) : Except Flaw (List Char × Cursor) :=
  quotedWords double cursor.mark (cursor.rest.length + 1) cursor.next []

/-! ### Block scalars -/

inductive Chomping where
  | clip
  | strip
  | keep
deriving Repr, DecidableEq

def chomping? (c : Char) : Option Chomping :=
  if c == '+' then some .keep else if c == '-' then some .strip else none

def blockIncrement (start : Mark) (cursor : Cursor) : Except Flaw (Option Nat × Cursor) :=
  let c := cursor.peek
  if '0' ≤ c && c ≤ '9' then
    if c == '0' then fail (.scanning .blockScalar) start .zeroIndentation cursor.mark
    else .ok (some (c.toNat - 48), cursor.next)
  else .ok (none, cursor)

/-- How line ends are chomped and how far lines are indented, in either order. -/
def blockHeader (start : Mark) (cursor : Cursor) :
    Except Flaw (Chomping × Option Nat × Cursor) := do
  let (chomping, increment, cursor) ← (match chomping? cursor.peek with
    | some chomping => do
        let (increment, cursor) ← blockIncrement start cursor.next
        return (chomping, increment, cursor)
    | none => do
        let (increment, cursor) ← blockIncrement start cursor
        match increment, chomping? cursor.peek with
        | some _, some chomping => return (chomping, increment, cursor.next)
        | _, _ => return (.clip, increment, cursor))
  if !isSpaceOrBreakOrEnd cursor.peek then
    fail (.scanning .blockScalar) start
      (.expected "chomping or indentation indicators" cursor.peek) cursor.mark
  let cursor := (cursor.skipWhile (· == ' ')).skipComment
  if !isBreakOrEnd cursor.peek then
    fail (.scanning .blockScalar) start
      (.expected "a comment or a line break" cursor.peek) cursor.mark
  return (chomping, increment, cursor.takeBreak.2)

/-- Line ends in front of a line that is indented to `indent`, and the place behind the last of
them. -/
def blockBreaks (indent : Nat) : Nat → Cursor → List Char → Mark → List Char × Mark × Cursor
  | 0, cursor, breaks, stop => (breaks, stop, cursor)
  | fuel + 1, cursor, breaks, stop =>
      let cursor := cursor.skipBlanksTo indent
      if isBreak cursor.peek then
        let (taken, cursor) := cursor.takeBreak
        blockBreaks indent fuel cursor (breaks ++ taken) cursor.mark
      else (breaks, stop, cursor)

/-- Line ends in front of the first line with text, and the greatest indentation seen. -/
def blockIndentation : Nat → Cursor → List Char → Nat → Mark →
    List Char × Nat × Mark × Cursor
  | 0, cursor, breaks, widest, stop => (breaks, widest, stop, cursor)
  | fuel + 1, cursor, breaks, widest, stop =>
      if cursor.peek == ' ' then
        blockIndentation fuel cursor.next breaks (max widest cursor.next.column) stop
      else if isBreak cursor.peek then
        let (taken, cursor) := cursor.takeBreak
        blockIndentation fuel cursor (breaks ++ taken) widest cursor.mark
      else (breaks, widest, stop, cursor)

structure BlockScalar where
  text : List Char
  stop : Mark
  cursor : Cursor

/-- The lines of a block scalar.  `breaks` are the line ends in front of the next line. -/
def blockLines (folded : Bool) (chomping : Chomping) (indent : Nat) :
    Nat → Cursor → List Char → List Char → Mark → BlockScalar
  | 0, cursor, done, _, stop => ⟨done, stop, cursor⟩
  | fuel + 1, cursor, done, breaks, stop =>
      if cursor.column == indent && cursor.peek != theEnd then
        let isBlank (c : Char) : Bool := c == ' ' || c == '\t'
        let startsWithText := !isBlank cursor.peek
        let line := cursor.spanWhile fun c => !isBreakOrEnd c
        let done := done ++ breaks ++ line
        let (lineEnd, cursor) := (cursor.skip line.length).takeBreak
        let (breaks, stop, cursor) :=
          blockBreaks indent (cursor.rest.length + 1) cursor [] cursor.mark
        if cursor.column == indent && cursor.peek != theEnd then
          let joint :=
            if folded && lineEnd == ['\n'] && startsWithText && !isBlank cursor.peek then
              if breaks.isEmpty then [' '] else []
            else lineEnd
          blockLines folded chomping indent fuel cursor (done ++ joint) breaks stop
        else
          let tail := match chomping with
            | .strip => []
            | .clip => lineEnd
            | .keep => lineEnd ++ breaks
          ⟨done ++ tail, stop, cursor⟩
      else ⟨done ++ (if chomping == .keep then breaks else []), stop, cursor⟩

/-- A block scalar from its mark on.  `indent` is one more than the column of the collection that
holds it. -/
def blockScalar (folded : Bool) (indent : Nat) (cursor : Cursor) : Except Flaw BlockScalar := do
  let (chomping, increment, cursor) ← blockHeader cursor.mark cursor.next
  let least := max indent 1
  let fuel := cursor.rest.length + 1
  match increment with
  | some increment =>
      let indent := least + increment - 1
      let (breaks, stop, cursor) := blockBreaks indent fuel cursor [] cursor.mark
      return blockLines folded chomping indent fuel cursor [] breaks stop
  | none =>
      let (breaks, widest, stop, cursor) := blockIndentation fuel cursor [] 0 cursor.mark
      return blockLines folded chomping (max least widest) fuel cursor [] breaks stop

end CacheSteward.Document
