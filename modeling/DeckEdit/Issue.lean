import DeckEdit.Patch.Basic
import DeckEdit.Text.Quoted

/-! What can be wrong with a candidate for a patch, or with a setting. An issue is a violated rule at
    a place; its texts are derived from the rule. -/

namespace DeckEdit

/-- A segment of the way to a part of a candidate. -/
inductive Segment where
  | name (t : Text)
  | index (n : Nat)
  deriving DecidableEq, Repr

def Segment.shown : Segment → Text
  | name t => t
  | index n => Text.ofNat n

/-- The rules, as violated: those of the contract, and the two on integers given as texts. -/
inductive Violation where
  | notMapping
  | missing
  | notList
  | noOps
  | tooManyOps (count : Nat)
  | opNotMapping
  | kindMissing
  | kindUnknown (shown : Text)
  | notText
  | surrogateInText
  | emptyText
  | textTooLong (limit : Nat)
  | explicitNull
  | notInteger
  | notNumber
  | aboveLimit (limit : Nat)
  | belowLimit (limit : Nat)
  | styleNotMapping
  | notFinite
  | unreadableInteger
  | longInteger
  deriving DecidableEq, Repr

structure Issue where
  place : List Segment
  violation : Violation
  deriving DecidableEq, Repr

namespace Violation

def constraint : Violation → String
  | notMapping => "model_type"
  | missing => "missing"
  | notList => "list_type"
  | noOps => "too_short"
  | tooManyOps _ => "too_long"
  | opNotMapping => "model_attributes_type"
  | kindMissing => "union_tag_not_found"
  | kindUnknown _ => "union_tag_invalid"
  | notText => "string_type"
  | surrogateInText => "string_unicode"
  | emptyText => "string_too_short"
  | textTooLong _ => "string_too_long"
  | explicitNull => "value_error"
  | notInteger => "int_type"
  | notNumber => "float_type"
  | aboveLimit _ => "less_than_equal"
  | belowLimit _ => "greater_than_equal"
  | styleNotMapping => "dict_type"
  | notFinite => "value_error"
  | unreadableInteger => "int_parsing"
  | longInteger => "int_parsing_size"

def expectedKinds : Text :=
  Text.join ", " (ChangeKind.all.map fun kind => Text.quoted (Text.ofString kind.tag))

def message : Violation → Text
  | notMapping => "Input should be a valid dictionary or instance of EditPatch"
  | missing => "Field required"
  | notList => "Input should be a valid list"
  | noOps => "List should have at least 1 item after validation, not 0"
  | tooManyOps count =>
    "List should have at most " ++ Text.ofNat Patch.maxOps ++ " items after validation, not " ++
      Text.ofNat count
  | opNotMapping => "Input should be a valid dictionary or object to extract fields from"
  | kindMissing => "Unable to extract tag using discriminator 'op'"
  | kindUnknown shown =>
    "Input tag '" ++ shown ++ "' found using 'op' does not match any of the expected tags: " ++
      expectedKinds
  | notText => "Input should be a valid string"
  | surrogateInText =>
    "Input should be a valid string, unable to parse raw data as a unicode string"
  | emptyText => "String should have at least 1 character"
  | textTooLong limit => "String should have at most " ++ Text.ofNat limit ++ " characters"
  | explicitNull => "Value error, field may be omitted but must not be null"
  | notInteger => "Input should be a valid integer"
  | notNumber => "Input should be a valid number"
  | aboveLimit limit => "Input should be less than or equal to " ++ Text.ofNat limit
  | belowLimit limit => "Input should be greater than or equal to " ++ Text.ofNat limit
  | styleNotMapping => "Input should be a valid dictionary"
  | notFinite => "Value error, coordinate must be a finite number"
  | unreadableInteger => "Input should be a valid integer, unable to parse string as an integer"
  | longInteger => "Unable to parse input string as an integer, exceeded maximum size"

end Violation

namespace Issue

/-- The place of an issue, with a point between its segments. -/
def field (issue : Issue) : Text :=
  Text.join "." (issue.place.map Segment.shown)

def message (issue : Issue) : Text :=
  issue.violation.message

/-- One line about several issues: the first one and how many follow. -/
def summarize : List Issue → Text
  | [] => "invalid edit patch"
  | first :: rest =>
    let field := first.field
    let place : Text := if field.isEmpty then "<root>" else field
    let more : Text := if rest.isEmpty then [] else " (+" ++ Text.ofNat rest.length ++ " more)"
    place ++ ": " ++ first.message ++ more

end Issue
end DeckEdit
