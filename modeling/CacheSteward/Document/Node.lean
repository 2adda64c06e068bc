import CacheSteward.Document.Lexer
import CacheSteward.Document.Tag

namespace CacheSteward.Document

/-! Documents as trees of nodes, and reading such a tree from the tokens.

Tokens are looked at no earlier than they are needed, so of several problems the first one in the
document is reported.
-/

inductive Node where
  | scalar (tag : Tag) (text : String) (start : Mark)
  | sequence (tag : Tag) (items : List Node) (start : Mark)
  | mapping (tag : Tag) (entries : List (Node × Node)) (start : Mark)
  /-- A collection again inside itself. -/
  | cycle (start : Mark)

namespace Node

instance : Inhabited Node := ⟨.cycle default⟩

def start : Node → Mark
  | .scalar _ _ start => start
  | .sequence _ _ start => start
  | .mapping _ _ start => start
  | .cycle start => start

def tag : Node → Tag
  | .scalar tag _ _ => tag
  | .sequence tag _ _ => tag
  | .mapping tag _ _ => tag
  | .cycle _ => .mapping

def kindName : Node → String
  | .scalar _ _ _ => "scalar"
  | .sequence _ _ _ => "sequence"
  | .mapping _ _ _ => "mapping"
  | .cycle _ => "mapping"

/-- Where nothing is written the value is null. -/
def empty (mark : Mark) : Node := .scalar .null "" mark

/-- A node that has been given a name.  It is none as long as it is being read. -/
structure Anchor where
  name : String
  start : Mark
  node : Option Node

structure Reader where
  lexer : Lexer
  handles : List (String × String) := []
  anchors : List Anchor := []

abbrev Reading := StateT Reader (Except Flaw)

def ofLexing {α : Type} (act : Lexing α) : Reading α := do
  let reader ← get
  let (a, lexer) ← (act.run reader.lexer : Except Flaw (α × Lexer))
  set { reader with lexer }
  return a

def peek : Reading Token := ofLexing Lexer.peekToken

def take : Reading Token := ofLexing Lexer.takeToken

def nextIs (test : TokenKind → Bool) : Reading Bool := return test (← peek).kind

structure Properties where
  anchor : Option String := none
  tag : Option (Option String × String) := none
  tagMark : Mark := default
  start : Option Mark := none
  stop : Mark := default

def readProperties : Reading Properties := do
  let addTag (handle : Option String) (rest : String) (token : Token) (p : Properties) :
      Properties :=
    { p with tag := some (handle, rest), tagMark := token.start, stop := token.stop,
             start := p.start.or (some token.start) }
  let addAnchor (name : String) (token : Token) (p : Properties) : Properties :=
    { p with anchor := some name, stop := token.stop, start := p.start.or (some token.start) }
  let first ← peek
  match first.kind with
  | .anchor name =>
      let token ← take
      let found := addAnchor name token {}
      match (← peek).kind with
      | .tag handle rest => return addTag handle rest (← take) found
      | _ => return found
  | .tag handle rest =>
      let token ← take
      let found := addTag handle rest token {}
      match (← peek).kind with
      | .anchor name => return addAnchor name (← take) found
      | _ => return found
  | _ => return {}

def fullTag (start : Mark) (properties : Properties) : Reading (Option String) := do
  match properties.tag with
  | none => return none
  | some (none, rest) => return some rest
  | some (some handle, rest) =>
      match (← get).handles.lookup handle with
      | some meant => return some (meant ++ rest)
      | none => fail (.parsing .node) start (.undefinedHandle handle) properties.tagMark

/-- A tag that leaves the choice to the reader. -/
def openTag : String := "!"

/-- Gives a name to a node that starts here.  A name is given once. -/
def nameAnchor (anchor : Option String) (start : Mark) : Reading Unit := do
  match anchor with
  | none => return
  | some name =>
      match (← get).anchors.find? (·.name == name) with
      | some first => fail (.firstAnchor name) first.start .secondAnchor start
      | none => modify fun reader =>
          { reader with anchors := ⟨name, start, none⟩ :: reader.anchors }

def finish (anchor : Option String) (node : Node) : Reading Node := do
  if let some name := anchor then
    modify fun reader => { reader with
      anchors := reader.anchors.map fun a =>
        if a.name == name then { a with node := some node } else a }
  return node

def collectionTag (usual : Tag) : Option String → Tag
  | none => usual
  | some name => if name == openTag then usual else .ofName name

/-- The tag of a scalar: what it is given, else what its spelling says when it is plain, else
text. -/
def scalarTag (plain : Bool) (text : String) : Option String → Tag
  | none => if plain then .ofPlain text else .text
  | some name => if name == openTag then .ofPlain text else .ofName name

def readAlias (name : String) : Reading Node := do
  let token ← take
  match (← get).anchors.find? (·.name == name) with
  | none => failAlone (.undefinedAlias name) token.start
  | some ⟨_, _, some node⟩ => return node
  | some ⟨_, start, none⟩ => return .cycle start

def endsBlockItem : TokenKind → Bool
  | .blockEntry | .blockEnd => true
  | _ => false

def endsBlockPart : TokenKind → Bool
  | .key | .value | .blockEnd => true
  | _ => false

def endsIndentlessItem (kind : TokenKind) : Bool := endsBlockItem kind || endsBlockPart kind

def isKey (kind : TokenKind) : Bool := kind == .key

def isValue (kind : TokenKind) : Bool := kind == .value

def endsFlowPart (closing : TokenKind) (kind : TokenKind) : Bool :=
  kind == .flowEntry || kind == closing

mutual

/-- Reads a node.  Block collections are allowed in blocks only, and a sequence without indentation
only as a part of a block mapping. -/
def read (block indentless : Bool) : Nat → Reading Node
  | 0 => do failAlone .endOfStream (← peek).start
  | fuel + 1 => do
      match (← peek).kind with
      | .alias name => readAlias name
      | _ =>
          let properties ← readProperties
          let tag ← fullTag (properties.start.getD default) properties
          let next ← peek
          let start := properties.start.getD next.start
          let anchor := properties.anchor
          let sequence (items : Reading (List Node)) : Reading Node := do
            nameAnchor anchor start
            finish anchor (.sequence (collectionTag .sequence tag) (← items) start)
          let mapping (entries : Reading (List (Node × Node))) : Reading Node := do
            nameAnchor anchor start
            finish anchor (.mapping (collectionTag .mapping tag) (← entries) start)
          match next.kind, block with
          | .blockEntry, _ =>
              if indentless then sequence (readIndentless fuel [])
              else readEmpty block properties tag next
          | .scalar text plain, _ =>
              let _ ← take
              nameAnchor anchor start
              finish anchor (.scalar (scalarTag plain text tag) text start)
          | .flowSequenceStart, _ =>
              sequence do readFlowSequence (← take).start true fuel []
          | .flowMappingStart, _ =>
              mapping do readFlowMapping (← take).start true fuel []
          | .blockSequenceStart, true =>
              sequence do readBlockSequence (← take).start fuel []
          | .blockMappingStart, true =>
              mapping do readBlockMapping (← take).start fuel []
          | _, _ => readEmpty block properties tag next

/-- Nothing stands where a node is wanted, which is fine when a name or a tag was given to it. -/
def readEmpty (block : Bool) (properties : Properties) (tag : Option String) (next : Token) :
    Reading Node := do
  let start := properties.start.getD next.start
  if properties.anchor.isSome || tag.isSome then
    nameAnchor properties.anchor start
    finish properties.anchor (.scalar (scalarTag true "" tag) "" start)
  else
    fail (.parsing (if block then .blockNode else .flowNode)) start
      (.foundToken "the node content" next.kind.name) next.start

def readBlockSequence (start : Mark) : Nat → List Node → Reading (List Node)
  | 0, items => return items
  | fuel + 1, items => do
      let next ← peek
      match next.kind with
      | .blockEntry =>
          let token ← take
          let item ← (do
            if ← nextIs endsBlockItem then return empty token.stop else read true false fuel)
          readBlockSequence start fuel (items ++ [item])
      | .blockEnd =>
          let _ ← take
          return items
      | kind =>
          fail (.parsing .blockCollection) start (.foundToken "<block end>" kind.name) next.start

/-- The entries of a sequence whose dashes stand right below the key. -/
def readIndentless : Nat → List Node → Reading (List Node)
  | 0, items => return items
  | fuel + 1, items => do
      match (← peek).kind with
      | .blockEntry =>
          let token ← take
          let item ← (do
            if ← nextIs endsIndentlessItem then return empty token.stop else read true false fuel)
          readIndentless fuel (items ++ [item])
      | _ => return items

def readBlockMapping (start : Mark) : Nat → List (Node × Node) → Reading (List (Node × Node))
  | 0, entries => return entries
  | fuel + 1, entries => do
      let next ← peek
      match next.kind with
      | .key =>
          let part : Reading Node := do
            let token ← take
            if ← nextIs endsBlockPart then return empty token.stop else read true true fuel
          let key ← part
          let value ← (do
            let after ← peek
            if isValue after.kind then part else return empty after.start)
          readBlockMapping start fuel (entries ++ [(key, value)])
      | .blockEnd =>
          let _ ← take
          return entries
      | kind =>
          fail (.parsing .blockMapping) start (.foundToken "<block end>" kind.name) next.start

/-- The two parts of an entry between brackets that starts with the mark of a key. -/
def readFlowPair (closing : TokenKind) : Nat → Reading (Node × Node)
  | 0 => return default
  | fuel + 1 => do
      let part (ends : TokenKind → Bool) : Reading Node := do
        let token ← take
        if ← nextIs ends then return empty token.stop else read false false fuel
      let key ← part fun kind => isValue kind || endsFlowPart closing kind
      let after ← peek
      let value ← (if isValue after.kind then part (endsFlowPart closing)
        else return empty after.start)
      return (key, value)

def readFlowSequence (start : Mark) (first : Bool) : Nat → List Node → Reading (List Node)
  | 0, items => return items
  | fuel + 1, items => do
      let next ← peek
      if next.kind == .flowSequenceEnd then
        let _ ← take
        return items
      if !first then
        if next.kind == .flowEntry then
          let _ ← take
        else
          fail (.parsing .flowSequence) start (.gotToken "',' or ']'" next.kind.name) next.start
      let item ← peek
      match item.kind with
      | .flowSequenceEnd =>
          let _ ← take
          return items
      | .key =>
          let (key, value) ← readFlowPair .flowSequenceEnd fuel
          let _ ← peek
          readFlowSequence start false fuel
            (items ++ [.mapping .mapping [(key, value)] item.start])
      | _ =>
          let node ← read false false fuel
          readFlowSequence start false fuel (items ++ [node])

def readFlowMapping (start : Mark) (first : Bool) :
    Nat → List (Node × Node) → Reading (List (Node × Node))
  | 0, entries => return entries
  | fuel + 1, entries => do
      let next ← peek
      if next.kind == .flowMappingEnd then
        let _ ← take
        return entries
      if !first then
        if next.kind == .flowEntry then
          let _ ← take
        else
          fail (.parsing .flowMapping) start (.gotToken "',' or '\x7d'" next.kind.name) next.start
      match (← peek).kind with
      | .flowMappingEnd =>
          let _ ← take
          return entries
      | .key =>
          let entry ← readFlowPair .flowMappingEnd fuel
          readFlowMapping start false fuel (entries ++ [entry])
      | _ =>
          let key ← read false false fuel
          readFlowMapping start false fuel (entries ++ [(key, empty (← peek).start)])

end

/-! ### Whole documents -/

def usualHandles : List (String × String) := [("!", "!"), ("!!", Tag.usualStart)]

structure Preamble where
  hasVersion : Bool := false
  handles : List (String × String) := []

def addDirective (preamble : Preamble) (directive : Directive) (mark : Mark) :
    Except Flaw Preamble :=
  match directive with
  | .version major _ =>
      if preamble.hasVersion then failAlone .duplicateVersion mark
      else if major != 1 then failAlone .incompatibleVersion mark
      else .ok { preamble with hasVersion := true }
  | .handle handle meant =>
      if (preamble.handles.lookup handle).isSome then failAlone (.duplicateHandle handle) mark
      else .ok { preamble with handles := preamble.handles ++ [(handle, meant)] }
  | .other => .ok preamble

def readDirectives : Nat → Preamble → Reading Preamble
  | 0, preamble => return preamble
  | fuel + 1, preamble => do
      match (← peek).kind with
      | .directive directive =>
          let token ← take
          readDirectives fuel (← addDirective preamble directive token.start)
      | _ => return preamble

def skipDocumentEnds : Nat → Reading Unit
  | 0 => return
  | fuel + 1 => do
      if (← peek).kind == .documentEnd then
        let _ ← take
        skipDocumentEnds fuel

/-- The start of a document with marks of its own, and where it is; nothing at the end. -/
def readDocumentStart (fuel : Nat) : Reading (Option Mark) := do
  skipDocumentEnds fuel
  let first ← peek
  if first.kind == .streamEnd then
    let _ ← take
    return none
  let preamble ← readDirectives fuel {}
  modify fun reader => { reader with handles := preamble.handles ++ usualHandles }
  let next ← peek
  if next.kind != .documentStart then
    failAlone (.foundToken "'<document start>'" next.kind.name) next.start
  let _ ← take
  return some first.start

def startsMarkedDocument : TokenKind → Bool
  | .directive _ | .documentStart | .streamEnd => true
  | _ => false

def endsDocument (kind : TokenKind) : Bool := startsMarkedDocument kind || kind == .documentEnd

def readOnly (fuel : Nat) : Reading (Option Node) := do
  let root ← (do
    if ← nextIs startsMarkedDocument then
      match ← readDocumentStart fuel with
      | none => return none
      | some _ =>
          let next ← peek
          if endsDocument next.kind then return some (empty next.start)
          else return some (← read true false fuel)
    else
      modify fun reader => { reader with handles := usualHandles }
      return some (← read true false fuel))
  match root with
  | none => return none
  | some root =>
      if (← peek).kind == .documentEnd then
        let _ ← take
      match ← readDocumentStart fuel with
      | some another => fail .singleDocument root.start .anotherDocument another
      | none => return some root

/-- More steps than reading a text of a length takes: each step finds a token, and a character
gives rise to four tokens at most. -/
def stepsFor (length : Nat) : Nat := 16 * (length + 2)

def ofText (cs : List Char) : Except Flaw (Option Node) :=
  ((readOnly (stepsFor cs.length)).run { lexer := .ofText cs }).map Prod.fst

end Node

end CacheSteward.Document
