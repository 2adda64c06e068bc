import CacheSteward.Document.Property

namespace CacheSteward.Document

/-! The tokens of a document, found as far as they are asked for.

Indentation opens and closes block collections.  A scalar, an alias or a flow collection may turn
out to be a key when a colon follows on its line; until this is settled the tokens from there on
are held back, so that the mark of the key can be put in front of them.
-/

structure PossibleKey where
  number : Nat
  /-- Only a key can stand there. -/
  required : Bool
  index : Nat
  mark : Mark
deriving Repr, DecidableEq

structure Lexer where
  cursor : Cursor
  done : Bool := false
  flowLevel : Nat := 0
  queue : List Token := []
  taken : Nat := 0
  /-- The column of the innermost block collection, -1 outside of all. -/
  indent : Int := -1
  outer : List Int := []
  keyAllowed : Bool := true
  /-- At most one place for each number of open brackets. -/
  possibleKeys : List (Nat × PossibleKey) := []

abbrev Lexing := StateT Lexer (Except Flaw)

namespace Lexer

def ofText (cs : List Char) : Lexer := { cursor := .ofText cs }

/-! ### Possible keys -/

def longestKey : Nat := 1024

def missingColon {α : Type} (lexer : Lexer) (key : PossibleKey) : Except Flaw α :=
  fail (.scanning .simpleKey) key.mark .missingColon lexer.cursor.mark

/-- Gives up the keys that a colon can no longer follow. -/
def dropStaleKeys (lexer : Lexer) : Except Flaw Lexer :=
  let isStale (key : PossibleKey) : Bool :=
    key.mark.line != lexer.cursor.line || key.index + longestKey < lexer.cursor.index
  match lexer.possibleKeys.find? fun (_, key) => isStale key && key.required with
  | some (_, key) => lexer.missingColon key
  | none =>
      .ok { lexer with possibleKeys := lexer.possibleKeys.filter fun (_, key) => !isStale key }

def dropKey (lexer : Lexer) : Except Flaw Lexer :=
  match lexer.possibleKeys.lookup lexer.flowLevel with
  | some key =>
      if key.required then lexer.missingColon key
      else .ok { lexer with
        possibleKeys := lexer.possibleKeys.filter fun (level, _) => level != lexer.flowLevel }
  | none => .ok lexer

def saveKey (lexer : Lexer) : Except Flaw Lexer :=
  if lexer.keyAllowed then do
    let key : PossibleKey :=
      { number := lexer.taken + lexer.queue.length
        required := lexer.flowLevel == 0 && lexer.indent == lexer.cursor.column
        index := lexer.cursor.index
        mark := lexer.cursor.mark }
    let lexer ← lexer.dropKey
    return { lexer with possibleKeys := (lexer.flowLevel, key) :: lexer.possibleKeys }
  else return lexer

/-- The next token may still turn out to be the start of a key. -/
def isHeldBack (lexer : Lexer) : Bool :=
  lexer.possibleKeys.any fun (_, key) => key.number == lexer.taken

/-! ### Indentation -/

def push (kind : TokenKind) (start : Mark) (lexer : Lexer) : Lexer :=
  { lexer with queue := lexer.queue ++ [⟨kind, start, lexer.cursor.mark⟩] }

/-- Closes the block collections that start right of a column. -/
def unwind (column : Int) (lexer : Lexer) : Lexer :=
  if lexer.flowLevel != 0 then lexer
  else
    let rec close : Int → List Int → List Token → Int × List Int × List Token
      | indent, [], closed => (indent, [], closed)
      | indent, outer :: rest, closed =>
          if indent > column then
            close outer rest (closed ++ [⟨.blockEnd, lexer.cursor.mark, lexer.cursor.mark⟩])
          else (indent, outer :: rest, closed)
    let (indent, outer, closed) := close lexer.indent lexer.outer []
    { lexer with indent, outer, queue := lexer.queue ++ closed }

def indentTo (column : Nat) (lexer : Lexer) : Option Lexer :=
  if lexer.indent < column then
    some { lexer with outer := lexer.indent :: lexer.outer, indent := column }
  else none

def openBlock (kind : TokenKind) (lexer : Lexer) : Lexer :=
  match lexer.indentTo lexer.cursor.column with
  | some lexer => lexer.push kind lexer.cursor.mark
  | none => lexer

/-! ### Tokens -/

def take (width : Nat) (kind : TokenKind) (lexer : Lexer) : Lexer :=
  { lexer with cursor := lexer.cursor.skip width }.push kind lexer.cursor.mark

def skipGap : Nat → Lexer → Lexer
  | 0, lexer => lexer
  | fuel + 1, lexer =>
      let cursor := (lexer.cursor.skipWhile (· == ' ')).skipComment
      if isBreak cursor.peek then
        skipGap fuel { lexer with
          cursor := cursor.takeBreak.2
          keyAllowed := lexer.keyAllowed || lexer.flowLevel == 0 }
      else { lexer with cursor }

def skipByteOrderMark (lexer : Lexer) : Lexer :=
  if lexer.cursor.index == 0 && lexer.cursor.peek == byteOrderMark then
    { lexer with cursor := lexer.cursor.next }
  else lexer

def fetchEnd (lexer : Lexer) : Except Flaw Lexer := do
  let lexer ← (lexer.unwind (-1)).dropKey
  let lexer := { lexer with keyAllowed := false, possibleKeys := [], done := true }
  return lexer.push .streamEnd lexer.cursor.mark

def fetchDirective (lexer : Lexer) : Except Flaw Lexer := do
  let lexer ← (lexer.unwind (-1)).dropKey
  let (token, cursor) ← directiveToken lexer.cursor
  return { lexer with keyAllowed := false, cursor, queue := lexer.queue ++ [token] }

def fetchSeparator (kind : TokenKind) (lexer : Lexer) : Except Flaw Lexer := do
  let lexer ← (lexer.unwind (-1)).dropKey
  return { lexer with keyAllowed := false }.take 3 kind

def fetchFlowStart (kind : TokenKind) (lexer : Lexer) : Except Flaw Lexer := do
  let lexer ← lexer.saveKey
  return { lexer with flowLevel := lexer.flowLevel + 1, keyAllowed := true }.take 1 kind

def fetchFlowEnd (kind : TokenKind) (lexer : Lexer) : Except Flaw Lexer := do
  let lexer ← lexer.dropKey
  return { lexer with flowLevel := lexer.flowLevel - 1, keyAllowed := false }.take 1 kind

def fetchFlowEntry (lexer : Lexer) : Except Flaw Lexer := do
  let lexer ← { lexer with keyAllowed := true }.dropKey
  return lexer.take 1 .flowEntry

def fetchBlockEntry (lexer : Lexer) : Except Flaw Lexer := do
  if lexer.flowLevel == 0 && !lexer.keyAllowed then
    failAlone .entryNotAllowed lexer.cursor.mark
  let lexer := if lexer.flowLevel == 0 then lexer.openBlock .blockSequenceStart else lexer
  let lexer ← { lexer with keyAllowed := true }.dropKey
  return lexer.take 1 .blockEntry

def fetchKey (lexer : Lexer) : Except Flaw Lexer := do
  if lexer.flowLevel == 0 && !lexer.keyAllowed then
    failAlone .keyNotAllowed lexer.cursor.mark
  let lexer := if lexer.flowLevel == 0 then lexer.openBlock .blockMappingStart else lexer
  let lexer ← { lexer with keyAllowed := lexer.flowLevel == 0 }.dropKey
  return lexer.take 1 .key

/-- A colon.  Where a key may have started, the mark of the key goes in front of it, and so does
the start of a block mapping when there is none at its column. -/
def fetchValue (lexer : Lexer) : Except Flaw Lexer := do
  match lexer.possibleKeys.lookup lexer.flowLevel with
  | some key =>
      let place := key.number - lexer.taken
      let insert (kind : TokenKind) (lexer : Lexer) : Lexer :=
        { lexer with queue := lexer.queue.insertIdx place ⟨kind, key.mark, key.mark⟩ }
      let lexer := insert .key { lexer with
        possibleKeys := lexer.possibleKeys.filter fun (level, _) => level != lexer.flowLevel
        keyAllowed := false }
      let lexer :=
        if lexer.flowLevel == 0 then
          match lexer.indentTo key.mark.column with
          | some lexer => insert .blockMappingStart lexer
          | none => lexer
        else lexer
      return lexer.take 1 .value
  | none =>
      if lexer.flowLevel == 0 && !lexer.keyAllowed then
        failAlone .valueNotAllowed lexer.cursor.mark
      let lexer := if lexer.flowLevel == 0 then lexer.openBlock .blockMappingStart else lexer
      let lexer ← { lexer with keyAllowed := lexer.flowLevel == 0 }.dropKey
      return lexer.take 1 .value

/-- A token that may start a key and that no key can follow. -/
def fetchWord (read : Cursor → Except Flaw (Token × Cursor)) (lexer : Lexer) :
    Except Flaw Lexer := do
  let lexer ← lexer.saveKey
  let (token, cursor) ← read lexer.cursor
  return { lexer with keyAllowed := false, cursor, queue := lexer.queue ++ [token] }

def fetchQuoted (double : Bool) (lexer : Lexer) : Except Flaw Lexer :=
  lexer.fetchWord fun cursor =>
    (quotedScalar double cursor).map fun (text, after) =>
      tokenFrom cursor.mark (.scalar (String.ofList text) false) after

def fetchBlockScalar (folded : Bool) (lexer : Lexer) : Except Flaw Lexer := do
  let lexer ← { lexer with keyAllowed := true }.dropKey
  let scalar ← blockScalar folded (lexer.indent + 1).toNat lexer.cursor
  let token : Token :=
    ⟨.scalar (String.ofList scalar.text) false, lexer.cursor.mark, scalar.stop⟩
  return { lexer with cursor := scalar.cursor, queue := lexer.queue ++ [token] }

def fetchPlain (lexer : Lexer) : Except Flaw Lexer := do
  let lexer ← lexer.saveKey
  let scalar := plainScalar (lexer.flowLevel != 0) (lexer.indent + 1).toNat lexer.cursor
  let token : Token :=
    ⟨.scalar (String.ofList scalar.text) true, lexer.cursor.mark, scalar.stop⟩
  return { lexer with
    keyAllowed := scalar.newLine, cursor := scalar.cursor, queue := lexer.queue ++ [token] }

/-- The characters that start a plain scalar: all but gaps and the marks of anything else; a dash,
and outside of brackets also a question mark or a colon, when no gap follows. -/
def startsPlain (lexer : Lexer) : Bool :=
  let c := lexer.cursor.peek
  !(isGap c || "-?:,[]\x7b\x7d#&*!|>'\"%@\x60".contains c) ||
    (!isGap (lexer.cursor.ahead 1) &&
      (c == '-' || (lexer.flowLevel == 0 && (c == '?' || c == ':'))))

def fetch (lexer : Lexer) : Except Flaw Lexer := do
  let lexer := lexer.skipByteOrderMark
  let lexer ← (skipGap (lexer.cursor.rest.length + 1) lexer).dropStaleKeys
  let lexer := lexer.unwind lexer.cursor.column
  let cursor := lexer.cursor
  let c := cursor.peek
  let gapFollows := isGap (cursor.ahead 1)
  let inBlock := lexer.flowLevel == 0
  if c == theEnd then lexer.fetchEnd
  else if c == '%' && cursor.column == 0 then lexer.fetchDirective
  else if c == '-' && cursor.column == 0 && cursor.atSeparator then
    lexer.fetchSeparator .documentStart
  else if c == '.' && cursor.column == 0 && cursor.atSeparator then
    lexer.fetchSeparator .documentEnd
  else if c == '[' then lexer.fetchFlowStart .flowSequenceStart
  else if c == '\x7b' then lexer.fetchFlowStart .flowMappingStart
  else if c == ']' then lexer.fetchFlowEnd .flowSequenceEnd
  else if c == '\x7d' then lexer.fetchFlowEnd .flowMappingEnd
  else if c == ',' then lexer.fetchFlowEntry
  else if c == '-' && gapFollows then lexer.fetchBlockEntry
  else if c == '?' && (!inBlock || gapFollows) then lexer.fetchKey
  else if c == ':' && (!inBlock || gapFollows) then lexer.fetchValue
  else if c == '*' then lexer.fetchWord (anchorToken true)
  else if c == '&' then lexer.fetchWord (anchorToken false)
  else if c == '!' then lexer.fetchWord tagToken
  else if c == '|' && inBlock then lexer.fetchBlockScalar false
  else if c == '>' && inBlock then lexer.fetchBlockScalar true
  else if c == '\'' then lexer.fetchQuoted false
  else if c == '"' then lexer.fetchQuoted true
  else if lexer.startsPlain then lexer.fetchPlain
  else .error (.malformed ⟨some (.scanning .nextToken, none), .cannotStart c, cursor.mark⟩)

/-- Finds tokens until the next one is settled. -/
def settle : Nat → Lexer → Except Flaw Lexer
  | 0, lexer => .ok lexer
  | fuel + 1, lexer =>
      if lexer.done then .ok lexer
      else if lexer.queue.isEmpty then do settle fuel (← lexer.fetch)
      else do
        let lexer ← lexer.dropStaleKeys
        if lexer.isHeldBack then settle fuel (← lexer.fetch) else return lexer

def peekToken : Lexing Token := do
  let lexer ← settle ((← get).cursor.rest.length + 2) (← get)
  set lexer
  return lexer.queue.headD ⟨.streamEnd, lexer.cursor.mark, lexer.cursor.mark⟩

def takeToken : Lexing Token := do
  let token ← peekToken
  modify fun lexer => { lexer with queue := lexer.queue.tail, taken := lexer.taken + 1 }
  return token

end Lexer

end CacheSteward.Document
