import DeckEdit.Deck.Apply

/-! What came of an edit, in short phrases for the user. -/

namespace DeckEdit
namespace Summary

inductive Phrase where
  | updated
  | moved
  | nothingApplied
  | locksRespected (count : Int)
  | notFound (count : Nat)
  | skippedByPolicy (count : Int)
  deriving DecidableEq, Repr

def Phrase.text : Phrase → Text
  | updated => "Updated text/style"
  | moved => "Moved elements"
  | nothingApplied => "No changes applied"
  | locksRespected count => "Locks respected: " ++ Text.ofInt count
  | notFound count => "Targets not found: " ++ Text.ofNat count
  | skippedByPolicy count => "Skipped by policy: " ++ Text.ofInt count

/-- The phrases about the kinds of changes that were made. -/
def changes (kinds : List ChangeKind) : List Phrase :=
  let updated := if kinds.any (· != .move) then [Phrase.updated] else []
  let moved := if kinds.contains .move then [Phrase.moved] else []
  if kinds.isEmpty then [.nothingApplied] else updated ++ moved

/-- The phrases about a result. Without a number of blocked targets, the skipped operations on locked
    elements are counted in their place. -/
def describe (result : Deck.Result) (skippedPolicy blockedTargets : Int) : List Phrase :=
  let kinds := (result.opsWith .applied).map fun op => op.change.kind
  let blocked : Int := if blockedTargets = 0 then result.skippedLocked else blockedTargets
  let locked := if blocked = 0 then [] else [Phrase.locksRespected blocked]
  let missing := result.skippedMissing
  let notFound := if missing = 0 then [] else [Phrase.notFound missing]
  let byPolicy := if skippedPolicy = 0 then [] else [Phrase.skippedByPolicy skippedPolicy]
  changes kinds ++ locked ++ notFound ++ byPolicy

end Summary
end DeckEdit
