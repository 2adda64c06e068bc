import CacheSteward.Fault

namespace CacheSteward.Document

/-! What can be wrong with a document, and where. -/

/-- A place in a document, counted from zero. -/
structure Mark where
  line : Nat
  column : Nat
deriving Repr, DecidableEq

instance : Inhabited Mark := ⟨⟨0, 0⟩⟩

/-- People count from one. -/
def Mark.text (name : String) (mark : Mark) : String :=
  "  in \"" ++ name ++ "\", line " ++ toString (mark.line + 1) ++ ", column " ++
    toString (mark.column + 1)

inductive Part where
  | nextToken
  | simpleKey
  | directive
  | alias
  | anchor
  | tag
  | blockScalar
  | doubleQuoted
  | quoted
  | node
  | blockNode
  | flowNode
  | blockCollection
  | blockMapping
  | flowSequence
  | flowMapping
  | mapping
deriving Repr, DecidableEq

def Part.text : Part → String
  | .nextToken => "for the next token"
  | .simpleKey => "a simple key"
  | .directive => "a directive"
  | .alias => "an alias"
  | .anchor => "an anchor"
  | .tag => "a tag"
  | .blockScalar => "a block scalar"
  | .doubleQuoted => "a double-quoted scalar"
  | .quoted => "a quoted scalar"
  | .node => "a node"
  | .blockNode => "a block node"
  | .flowNode => "a flow node"
  | .blockCollection => "a block collection"
  | .blockMapping => "a block mapping"
  | .flowSequence => "a flow sequence"
  | .flowMapping => "a flow mapping"
  | .mapping => "a mapping"

inductive Context where
  | scanning (part : Part)
  | parsing (part : Part)
  | constructing (part : Part)
  | singleDocument
  | firstAnchor (name : String)
deriving Repr, DecidableEq

def Context.text : Context → String
  | .scanning part => "while scanning " ++ part.text
  | .parsing part => "while parsing " ++ part.text
  | .constructing part => "while constructing " ++ part.text
  | .singleDocument => "expected a single document in the stream"
  | .firstAnchor name => "found duplicate anchor " ++ Text.quoted name ++ "; first occurrence"

inductive Complaint where
  | cannotStart (c : Char)
  | missingColon
  | entryNotAllowed
  | keyNotAllowed
  | valueNotAllowed
  | expected (what : String) (found : Char)
  | zeroIndentation
  | unknownEscape (c : Char)
  | endOfStream
  | documentSeparator
  | undecodable (byte : Nat) (position : Nat)
  | foundToken (what token : String)
  | gotToken (what token : String)
  | duplicateVersion
  | incompatibleVersion
  | duplicateHandle (handle : String)
  | undefinedHandle (handle : String)
  | undefinedAlias (name : String)
  | secondAnchor
  | anotherDocument
  | unhashableKey
  | expectedNode (what found : String)
  | unknownTag (tag : String)
deriving Repr, DecidableEq

namespace Complaint

def shownChar (c : Char) : String := Text.quoted (String.singleton c)

def text : Complaint → String
  | .cannotStart c => "found character " ++ shownChar c ++ " that cannot start any token"
  | .missingColon => "could not find expected ':'"
  | .entryNotAllowed => "sequence entries are not allowed here"
  | .keyNotAllowed => "mapping keys are not allowed here"
  | .valueNotAllowed => "mapping values are not allowed here"
  | .expected what found => "expected " ++ what ++ ", but found " ++ shownChar found
  | .zeroIndentation => "expected indentation indicator in the range 1-9, but found 0"
  | .unknownEscape c => "found unknown escape character " ++ shownChar c
  | .endOfStream => "found unexpected end of stream"
  | .documentSeparator => "found unexpected document separator"
  | .undecodable byte position =>
      "'utf-8' codec can't decode byte 0x" ++ String.ofList (Text.hexDigits 2 byte) ++
        " in position " ++ toString position ++ ": invalid start byte"
  | .foundToken what token => "expected " ++ what ++ ", but found " ++ Text.quoted token
  | .gotToken what token => "expected " ++ what ++ ", but got " ++ Text.quoted token
  | .duplicateVersion => "found duplicate YAML directive"
  | .incompatibleVersion => "found incompatible YAML document (version 1.* is required)"
  | .duplicateHandle handle => "duplicate tag handle " ++ Text.quoted handle
  | .undefinedHandle handle => "found undefined tag handle " ++ Text.quoted handle
  | .undefinedAlias name => "found undefined alias " ++ Text.quoted name
  | .secondAnchor => "second occurrence"
  | .anotherDocument => "but found another document"
  | .unhashableKey => "found unhashable key"
  | .expectedNode what found => "expected " ++ what ++ ", but found " ++ found
  | .unknownTag tag => "could not determine a constructor for the tag " ++ Text.quoted tag

end Complaint

/-- A complaint with its place, and what was going on, which may have a place of its own. -/
structure Problem where
  context : Option (Context × Option Mark)
  complaint : Complaint
  mark : Mark
deriving Repr, DecidableEq

namespace Problem

/-- The context with its place, then the complaint with its place, a line each.  A place that would
be named twice in a row is named once. -/
def text (name : String) (problem : Problem) : String :=
  let context := match problem.context with
    | none => []
    | some (context, none) => [context.text]
    | some (context, some mark) =>
        if mark = problem.mark then [context.text] else [context.text, mark.text name]
  "\n".intercalate (context ++ [problem.complaint.text, problem.mark.text name])

def alone (complaint : Complaint) (mark : Mark) : Problem := ⟨none, complaint, mark⟩

end Problem

inductive Flaw where
  | malformed (problem : Problem)
  /-- A word in it stands for something that does not exist. -/
  | meaningless (fault : CacheSteward.Fault)

namespace Flaw

def fault (name : String) : Flaw → CacheSteward.Fault
  | .malformed problem => .plain .document [.text (problem.text name)]
  | .meaningless fault => fault

end Flaw

def fail {α : Type} (context : Context) (start : Mark) (complaint : Complaint) (mark : Mark) :
    Except Flaw α :=
  .error (.malformed ⟨some (context, some start), complaint, mark⟩)

def failAlone {α : Type} (complaint : Complaint) (mark : Mark) : Except Flaw α :=
  .error (.malformed (.alone complaint mark))

end CacheSteward.Document
