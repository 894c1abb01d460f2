import DeckEdit.Patch.Wire
import DeckEdit.Reply
import DeckEdit.Summary
import DeckEdit.Target

/-! An edit from the reply to the report: the patch of the reply, without what lies outside the user's
    targets, applied to the deck as far as locks let it. -/

namespace DeckEdit
namespace Edit

/-- What a user asks for. `allowed` holds target keys. -/
structure Request where
  reply : Option Text
  document : Value
  locks : Value
  allowed : Value
  slideIndex : Option Int

/-- An edit that was carried out. `blocked` names the targets that locks kept from being edited. -/
structure Report where
  patch : Patch
  result : Deck.Result
  skippedPolicy : Nat
  blocked : List Text

def Report.summary (report : Report) : List Summary.Phrase :=
  Summary.describe report.result report.skippedPolicy report.blocked.length

/-- How an edit ends: the reply gives no patch, or its patch is applied. -/
inductive Answer where
  | refused (reason : Reply.Refusal)
  | done (report : Report)

/-- The deck after an edit: the document as it was if the reply was refused. -/
def Answer.nextDocument (document : Value) : Answer → Value
  | refused _ => document
  | done report => Value.ofJson (.object report.result.deck)

/-- How many operations were applied, and how many were not for each of the reasons. -/
structure Counters where
  applied : Nat
  skippedLocked : Nat
  skippedMissing : Nat
  skippedPolicy : Nat
  deriving DecidableEq, Repr

def Counters.total (counters : Counters) : Nat :=
  counters.applied + counters.skippedLocked + counters.skippedMissing + counters.skippedPolicy

def Report.counters (report : Report) : Counters where
  applied := report.result.applied
  skippedLocked := report.result.skippedLocked
  skippedMissing := report.result.skippedMissing
  skippedPolicy := report.skippedPolicy

/-- The counters of an edit: all zero if the reply was refused. -/
def Answer.counters : Answer → Counters
  | refused _ => ⟨0, 0, 0, 0⟩
  | done report => report.counters

def lockedTargets (document locks allowed : Value) : Except Fault (List Text) :=
  if allowed.isTruthy then
    Target.locked locks (Target.slideId? document) (allowed.elements?.getD [])
  else .ok []

/-- Applies the patch of a reply under a request's restrictions. -/
def applyPatch (request : Request) (patch : Patch) : Except Fault Report := do
  let policy ← Target.Policy.ofValue request.allowed request.slideIndex
  let passed := policy.filter patch.ops
  let result ← Deck.apply request.document request.locks passed.ops
  let targets ← lockedTargets request.document request.locks request.allowed
  let blocked := (result.opsWith .locked).map Op.reportToken ++ targets
  return {
    patch, result
    skippedPolicy := passed.skipped
    blocked := Text.sortedDistinct blocked }

/-- Why an edit cannot be carried out at all: settings that cannot be read, a candidate that is no
    patch, or a fault. -/
inductive Failure where
  | settings (issues : List Issue)
  | contract (issues : List Issue)
  | fault (fault : Fault)

def applyCandidate (document locks candidate : Value) : Except Failure Deck.Result :=
  match Patch.ofValue candidate with
  | .error issues => .error (.contract issues)
  | .ok patch => (Deck.apply document locks patch.ops).mapError .fault

def run (settings : Settings) (request : Request) : Except Fault Answer :=
  match Reply.parse settings request.reply with
  | .error reason => .ok (.refused reason)
  | .ok proposal => (applyPatch request proposal.patch).map .done

end Edit
end DeckEdit
