import CacheSteward.Document.Scalar
import CacheSteward.Document.Token

namespace CacheSteward.Document

/-! Reading what stands beside nodes: anchors, aliases and tags, and the directives in front of a
document. -/

def isNameChar (c : Char) : Bool := c.isAlphanum || c == '-' || c == '_'

def isTagChar (c : Char) : Bool := isNameChar c || ";/?:@&=+$,.!~*'()[]%".contains c

def tokenFrom (start : Mark) (kind : TokenKind) (cursor : Cursor) : Token × Cursor :=
  (⟨kind, start, cursor.mark⟩, cursor)

/-! ### Anchors and aliases -/

def anchorToken (isAlias : Bool) (cursor : Cursor) : Except Flaw (Token × Cursor) :=
  let start := cursor.mark
  let part := if isAlias then Part.alias else Part.anchor
  let cursor := cursor.next
  let name := cursor.spanWhile isNameChar
  let after := cursor.skip name.length
  let wanted (found : Char) : Complaint := .expected "alphabetic or numeric character" found
  if name.isEmpty then fail (.scanning part) start (wanted cursor.peek) cursor.mark
  else if !(isGap after.peek || "?:,]\x7d%@\x60".contains after.peek) then
    fail (.scanning part) start (wanted after.peek) after.mark
  else
    let name := String.ofList name
    .ok (tokenFrom start (if isAlias then .alias name else .anchor name) after)

/-! ### Tags -/

def escapedBytes (part : Part) (start : Mark) : Nat → Cursor → List Nat →
    Except Flaw (List Nat × Cursor)
  | 0, cursor, bytes => .ok (bytes, cursor)
  | fuel + 1, cursor, bytes =>
      if cursor.peek == '%' then
        let cursor := cursor.next
        match hexNumber 2 cursor with
        | .ok byte => escapedBytes part start fuel (cursor.skip 2) (bytes ++ [byte])
        | .error found => fail (.scanning part) start
            (.expected "URI escape sequence of 2 hexadecimal numbers" found) cursor.mark
      else .ok (bytes, cursor)

def escapedText (part : Part) (start : Mark) (cursor : Cursor) :
    Except Flaw (List Char × Cursor) := do
  let (bytes, after) ← escapedBytes part start cursor.rest.length cursor []
  match String.fromUTF8? ⟨(bytes.map UInt8.ofNat).toArray⟩ with
  | some text => return (text.toList, after)
  | none =>
      let position := bytes.findIdx (128 ≤ ·)
      fail (.scanning part) start (.undecodable (bytes[position]?.getD 0) position) cursor.mark

def tagRestFrom (part : Part) (start : Mark) : Nat → Cursor → List Char →
    Except Flaw (List Char × Cursor)
  | 0, cursor, done => .ok (done, cursor)
  | fuel + 1, cursor, done =>
      let usual := cursor.spanWhile fun c => isTagChar c && c != '%'
      let cursor := cursor.skip usual.length
      if cursor.peek == '%' then do
        let (meant, cursor) ← escapedText part start cursor
        tagRestFrom part start fuel cursor (done ++ usual ++ meant)
      else .ok (done ++ usual, cursor)

def tagRest (part : Part) (start : Mark) (cursor : Cursor) : Except Flaw (String × Cursor) := do
  let (rest, after) ← tagRestFrom part start (cursor.rest.length + 1) cursor []
  if after.index == cursor.index then
    fail (.parsing part) start (.expected "URI" after.peek) after.mark
  return (String.ofList rest, after)

def tagHandle (part : Part) (start : Mark) (cursor : Cursor) : Except Flaw (String × Cursor) :=
  if cursor.peek != '!' then
    fail (.scanning part) start (.expected "'!'" cursor.peek) cursor.mark
  else if cursor.ahead 1 == ' ' then .ok ("!", cursor.next)
  else
    let name := cursor.next.spanWhile isNameChar
    let after := cursor.skip (name.length + 1)
    if after.peek != '!' then fail (.scanning part) start (.expected "'!'" after.peek) after.mark
    else .ok (String.ofList ('!' :: name ++ ['!']), after.next)

/-- A tag, from its mark on.  A handle is there when another mark follows within the word. -/
def tagToken (cursor : Cursor) : Except Flaw (Token × Cursor) := do
  let start := cursor.mark
  let first := cursor.ahead 1
  let (handle, rest, after) ← (
    if first == '<' then do
      let (rest, after) ← tagRest .tag start (cursor.skip 2)
      if after.peek != '>' then
        fail (.parsing .tag) start (.expected "'>'" after.peek) after.mark
      return ((none : Option String), rest, after.next)
    else if isGap first then return (none, "!", cursor.next)
    else do
      let hasHandle := (cursor.next.spanWhile fun c => !isSpaceOrBreakOrEnd c).contains '!'
      let (handle, cursor) ← (if hasHandle then tagHandle .tag start cursor
        else pure ("!", cursor.next))
      let (rest, after) ← tagRest .tag start cursor
      return (some handle, rest, after))
  if !isSpaceOrBreakOrEnd after.peek then
    fail (.scanning .tag) start (.expected "' '" after.peek) after.mark
  return tokenFrom start (.tag handle rest) after

/-! ### Directives -/

def directiveNumber (start : Mark) (cursor : Cursor) : Except Flaw (Nat × Cursor) :=
  let digits := cursor.spanWhile Char.isDigit
  if digits.isEmpty then
    fail (.scanning .directive) start (.expected "a digit" cursor.peek) cursor.mark
  else .ok (digits.foldl (fun value c => 10 * value + (c.toNat - 48)) 0, cursor.skip digits.length)

def versionDirective (start : Mark) (cursor : Cursor) : Except Flaw (Directive × Cursor) := do
  let (major, cursor) ← directiveNumber start (cursor.skipWhile (· == ' '))
  if cursor.peek != '.' then
    fail (.scanning .directive) start (.expected "a digit or '.'" cursor.peek) cursor.mark
  let (minor, cursor) ← directiveNumber start cursor.next
  if !isSpaceOrBreakOrEnd cursor.peek then
    fail (.scanning .directive) start (.expected "a digit or ' '" cursor.peek) cursor.mark
  return (.version major minor, cursor)

def handleDirective (start : Mark) (cursor : Cursor) : Except Flaw (Directive × Cursor) := do
  let (handle, cursor) ← tagHandle .directive start (cursor.skipWhile (· == ' '))
  if cursor.peek != ' ' then
    fail (.scanning .directive) start (.expected "' '" cursor.peek) cursor.mark
  let (meant, cursor) ← tagRest .directive start (cursor.skipWhile (· == ' '))
  if !isSpaceOrBreakOrEnd cursor.peek then
    fail (.scanning .directive) start (.expected "' '" cursor.peek) cursor.mark
  return (.handle handle meant, cursor)

def directiveToken (cursor : Cursor) : Except Flaw (Token × Cursor) := do
  let start := cursor.mark
  let cursor := cursor.next
  let name := cursor.spanWhile isNameChar
  let after := cursor.skip name.length
  let wanted (found : Char) : Complaint := .expected "alphabetic or numeric character" found
  if name.isEmpty then fail (.scanning .directive) start (wanted cursor.peek) cursor.mark
  if !isSpaceOrBreakOrEnd after.peek then
    fail (.scanning .directive) start (wanted after.peek) after.mark
  let (directive, after) ← (match String.ofList name with
    | "YAML" => versionDirective start after
    | "TAG" => handleDirective start after
    | _ => pure (.other, after.skipWhile fun c => !isBreakOrEnd c))
  let stop := after.mark
  let after := (after.skipWhile (· == ' ')).skipComment
  if !isBreakOrEnd after.peek then
    fail (.scanning .directive) start (.expected "a comment or a line break" after.peek) after.mark
  return (⟨.directive directive, start, stop⟩, after.takeBreak.2)

end CacheSteward.Document
