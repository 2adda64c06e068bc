import CacheSteward.Value.Shown

namespace CacheSteward

/-! What is wrong with a record, and where.

A violation names the place inside the record, outermost part first, and the rule that the value
there breaks.  The wording, the kind and the particulars of a rule are each one function of it.
-/

inductive Segment where
  | field (name : String)
  | index (n : Nat)
  | number (a : Amount)
deriving Repr, DecidableEq

namespace Segment

def text : Segment → String
  | .field name => name
  | .index n => toString n
  | .number a => a.text

def value : Segment → Value
  | .field name => .text name
  | .index n => .whole n
  | .number a => .ofAmount a

def ofKey (key : Value) : Segment :=
  match key.amount? with
  | some a => .number a
  | none => .field key.shown

end Segment

structure Member where
  constant : String
  word : String
deriving Repr, DecidableEq

class Enumerated (α : Type) where
  title : String
  all : List α
  member : α → Member

namespace Enumerated

variable {α : Type} [Enumerated α]

def word (a : α) : String := (member a).word

def ofWord? (s : String) : Option α := all.find? fun a => word a == s

theorem word_of_ofWord? {s : String} {a : α} (found : ofWord? s = some a) : word a = s := by
  simpa using List.find?_some found

def shownMember (title : String) (m : Member) : String :=
  "<" ++ title ++ "." ++ m.constant ++ ": " ++ Text.quoted m.word ++ ">"

def shown (a : α) : String := shownMember (title α) (member a)

end Enumerated

inductive Rule where
  | missing
  | nullNotAllowed
  | text
  | whole
  | real
  | flag
  | list
  | mapping
  | moment
  | momentKind
  | textKeys
  | member (title : String) (members : List Member)
  | constant (given : Value) (permitted : String)
  | atLeast (limit : Int)
  | atMost (limit : Int)
  | above (limit : Int)
  | tagMissing (tag : String)
  | tagUnknown (tag : String) (given : Value) (allowed : List String)
  | custom (message : String)
deriving DecidableEq

namespace Rule

def quotedList (words : List String) : String := Value.commaSeparated (words.map Text.quoted)

def message : Rule → String
  | .missing => "field required"
  | .nullNotAllowed => "none is not an allowed value"
  | .text => "str type expected"
  | .whole => "value is not a valid integer"
  | .real => "value is not a valid float"
  | .flag => "value could not be parsed to a boolean"
  | .list => "value is not a valid list"
  | .mapping => "value is not a valid dict"
  | .moment => "invalid datetime format"
  | .momentKind => "invalid type; expected datetime, string, bytes, int or float"
  | .textKeys => "keywords must be strings"
  | .member _ members =>
      "value is not a valid enumeration member; permitted: " ++ quotedList (members.map (·.word))
  | .constant _ permitted => "unexpected value; permitted: " ++ Text.quoted permitted
  | .atLeast limit => "ensure this value is greater than or equal to " ++ toString limit
  | .atMost limit => "ensure this value is less than or equal to " ++ toString limit
  | .above limit => "ensure this value is greater than " ++ toString limit
  | .tagMissing tag => "Discriminator " ++ Text.quoted tag ++ " is missing in value"
  | .tagUnknown tag given allowed =>
      "No match for discriminator " ++ Text.quoted tag ++ " and value " ++ given.inside ++
        " (allowed values: " ++ quotedList allowed ++ ")"
  | .custom message => message

def kind : Rule → String
  | .missing => "value_error.missing"
  | .nullNotAllowed => "type_error.none.not_allowed"
  | .text => "type_error.str"
  | .whole => "type_error.integer"
  | .real => "type_error.float"
  | .flag => "type_error.bool"
  | .list => "type_error.list"
  | .mapping => "type_error.dict"
  | .moment => "value_error.datetime"
  | .momentKind => "type_error"
  | .textKeys => "type_error"
  | .member _ _ => "type_error.enum"
  | .constant _ _ => "value_error.const"
  | .atLeast _ => "value_error.number.not_ge"
  | .atMost _ => "value_error.number.not_le"
  | .above _ => "value_error.number.not_gt"
  | .tagMissing _ => "value_error.discriminated_union.missing_discriminator"
  | .tagUnknown _ _ _ => "value_error.discriminated_union.invalid_discriminator"
  | .custom _ => "value_error"

def particulars : Rule → List (String × String)
  | .member title members =>
      [("enum_values",
        "[" ++ Value.commaSeparated (members.map (Enumerated.shownMember title)) ++ "]")]
  | .constant given permitted =>
      [("given", given.shown), ("permitted", "(" ++ Text.quoted permitted ++ ",)")]
  | .atLeast limit => [("limit_value", toString limit)]
  | .atMost limit => [("limit_value", toString limit)]
  | .above limit => [("limit_value", toString limit)]
  | .tagMissing tag => [("discriminator_key", tag)]
  | .tagUnknown tag given allowed =>
      [("discriminator_key", tag), ("discriminator_value", given.shown),
        ("allowed_values", quotedList allowed)]
  | _ => []

end Rule

structure Violation where
  place : List Segment
  rule : Rule
deriving DecidableEq

namespace Violation

/-- Two lines: the place, then the message with its kind and particulars. -/
def report (violation : Violation) : String :=
  " -> ".intercalate (violation.place.map Segment.text) ++ "\n  " ++ violation.rule.message ++
    " (type=" ++ "; ".intercalate
      (violation.rule.kind :: violation.rule.particulars.map fun (name, text) =>
        name ++ "=" ++ text) ++ ")"

def reportAll (record : String) (violations : List Violation) : String :=
  let count := violations.length
  toString count ++ " validation error" ++ (if count == 1 then "" else "s") ++ " for " ++ record ++
    "\n" ++ "\n".intercalate (violations.map report)

end Violation

end CacheSteward
