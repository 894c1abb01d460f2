import DeckEdit.Json.Reader
import DeckEdit.Patch.Contract
import DeckEdit.Settings
import DeckEdit.Span
import DeckEdit.Value.Clone

/-! Replies of a model: free text with a patch somewhere in it. A reply that gives no patch is refused
    with a reason; it never causes a fault. -/

namespace DeckEdit
namespace Reply

inductive Refusal where
  | tooLarge (length : Nat) (limit : Int)
  | notJson (candidate : Text) (cause : Json.ReadError)
  | breaksContract (candidate : Text) (issues : List Issue)

namespace Refusal

def message : Refusal → Text
  | tooLarge length limit =>
    "Model output too large (" ++ Text.ofNat length ++ " chars, limit " ++ Text.ofInt limit ++ ")."
  | notJson _ cause => "Model output is not valid JSON: " ++ cause.message
  | breaksContract _ issues =>
    "Model output does not match the edit contract: " ++ Issue.summarize issues

/-- The violated rules, if the candidate was read at all. -/
def issues : Refusal → List Issue
  | breaksContract _ issues => issues
  | _ => []

def candidate : Refusal → Text
  | tooLarge .. => []
  | notJson candidate _ => candidate
  | breaksContract candidate _ => candidate

end Refusal

/-- A patch and the part of the reply that spells it. -/
structure Proposal where
  patch : Patch
  candidate : Text

/-- How deep values may nest in a reply: one level less than in a file, because a reply is read one call deeper,
    and the limit on nested calls counts that call as it counts a level. -/
def maxDepth : Nat := Json.maxDepth - 1

/-- The part of a reply to be read as JSON: the balanced span, or all of the reply if it has none. -/
def candidate (reply : Text) : Text :=
  (Span.find? reply).getD reply.trim

def parse (settings : Settings) (reply : Option Text) : Except Refusal Proposal :=
  let reply := reply.getD []
  if settings.maxReplyLength < reply.length then
    .error (.tooLarge reply.length settings.maxReplyLength)
  else
    let candidate := candidate reply
    match Json.readWithin maxDepth candidate with
    | .error cause => .error (.notJson candidate cause)
    | .ok v =>
      match Patch.ofValue (Value.ofJson v) with
      | .error issues => .error (.breaksContract candidate issues)
      | .ok patch => .ok ⟨patch, candidate⟩

end Reply
end DeckEdit
