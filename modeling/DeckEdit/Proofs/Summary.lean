import DeckEdit.Summary
import DeckEdit.Proofs.Text
import Mathlib.Data.List.Basic

/-! What the phrases of a summary tell, and in which order they stand. Phrases that differ have different
    texts, so what is told can be read off the texts. -/

namespace DeckEdit
namespace Summary
variable {result : Deck.Result} {skippedPolicy blockedTargets n : Int} {kinds : List ChangeKind}
  {phrase : Phrase}

/-! ### Changes -/

theorem changes_sublist (kinds : List ChangeKind) :
    (changes kinds).Sublist [.nothingApplied, .updated, .moved] := by
  unfold changes
  dsimp only
  split
  · exact List.sublist_append_left [Phrase.nothingApplied] _
  · split <;> split <;> decide

theorem nothingApplied_mem_changes : .nothingApplied ∈ changes kinds ↔ kinds = [] := by
  cases kinds <;> simp [changes, List.mem_ite_nil_right]

theorem updated_mem_changes : .updated ∈ changes kinds ↔ ∃ kind ∈ kinds, kind ≠ .move := by
  cases kinds <;> simp [changes, List.mem_ite_nil_right]

theorem moved_mem_changes : .moved ∈ changes kinds ↔ .move ∈ kinds := by
  cases kinds <;> simp [changes, List.mem_ite_nil_right]

theorem notMem_changes (h : phrase ∉ [Phrase.nothingApplied, .updated, .moved]) (kinds : List ChangeKind) :
    phrase ∉ changes kinds :=
  fun hmem => h ((changes_sublist kinds).subset hmem)

/-! ### Results -/

/-- How many targets a summary tells of as locked. -/
def lockedCount (result : Deck.Result) (blockedTargets : Int) : Int :=
  if blockedTargets = 0 then result.skippedLocked else blockedTargets

theorem mem_describe : phrase ∈ describe result skippedPolicy blockedTargets ↔
    phrase ∈ changes ((result.opsWith .applied).map fun op => op.change.kind) ∨
      lockedCount result blockedTargets ≠ 0 ∧ phrase = .locksRespected (lockedCount result blockedTargets) ∨
      result.skippedMissing ≠ 0 ∧ phrase = .notFound result.skippedMissing ∨
      skippedPolicy ≠ 0 ∧ phrase = .skippedByPolicy skippedPolicy := by
  simp only [describe, lockedCount, List.mem_append, List.mem_ite_nil_left, List.mem_singleton, or_assoc]

/-- The phrases stand in one order, whichever of them are there. -/
theorem describe_sublist (result : Deck.Result) (skippedPolicy blockedTargets : Int) :
    (describe result skippedPolicy blockedTargets).Sublist
      [.nothingApplied, .updated, .moved, .locksRespected (lockedCount result blockedTargets),
        .notFound result.skippedMissing, .skippedByPolicy skippedPolicy] := by
  have hunless {p : Prop} [Decidable p] (phrase : Phrase) : (if p then [] else [phrase]).Sublist [phrase] := by
    split <;> simp
  exact (((changes_sublist _).append (hunless _)).append (hunless _)).append (hunless _)

/-- Locks are told of if there is a number to tell. -/
theorem locksRespected_mem_describe : .locksRespected n ∈ describe result skippedPolicy blockedTargets ↔
    n ≠ 0 ∧ n = lockedCount result blockedTargets := by
  rw [mem_describe, or_iff_right (notMem_changes (by simp) _)]
  simp only [Phrase.locksRespected.injEq, reduceCtorEq, and_false, or_false]
  exact and_congr_left fun heq => by rw [heq]

theorem notFound_mem_describe {n : Nat} : .notFound n ∈ describe result skippedPolicy blockedTargets ↔
    n ≠ 0 ∧ n = result.skippedMissing := by
  rw [mem_describe, or_iff_right (notMem_changes (by simp) _)]
  simp only [Phrase.notFound.injEq, reduceCtorEq, and_false, false_or, or_false]
  exact and_congr_left fun heq => by rw [heq]

theorem skippedByPolicy_mem_describe : .skippedByPolicy n ∈ describe result skippedPolicy blockedTargets ↔
    n ≠ 0 ∧ n = skippedPolicy := by
  rw [mem_describe, or_iff_right (notMem_changes (by simp) _)]
  simp only [Phrase.skippedByPolicy.injEq, reduceCtorEq, and_false, false_or]
  exact and_congr_left fun heq => by rw [heq]

theorem nothingApplied_mem_describe : .nothingApplied ∈ describe result skippedPolicy blockedTargets ↔
    result.opsWith .applied = [] := by
  simp only [mem_describe, nothingApplied_mem_changes, reduceCtorEq, and_false, or_false, List.map_eq_nil_iff]

theorem updated_mem_describe : .updated ∈ describe result skippedPolicy blockedTargets ↔
    ∃ op ∈ result.opsWith .applied, op.change.kind ≠ .move := by
  simp [mem_describe, updated_mem_changes]

theorem moved_mem_describe : .moved ∈ describe result skippedPolicy blockedTargets ↔
    ∃ op ∈ result.opsWith .applied, op.change.kind = .move := by
  simp [mem_describe, moved_mem_changes]

/-! ### Texts -/

/-- The first letter of a phrase, which tells the phrases apart but for their numbers. -/
def Phrase.initial : Phrase → Char
  | updated => 'U'
  | moved => 'M'
  | nothingApplied => 'N'
  | locksRespected _ => 'L'
  | notFound _ => 'T'
  | skippedByPolicy _ => 'S'

theorem Phrase.head?_text (phrase : Phrase) : phrase.text.head? = some (CodePoint.ofChar phrase.initial) := by
  cases phrase <;> rfl

theorem Phrase.text_injective : Function.Injective Phrase.text := by
  intro phrase other h
  have hhead := congrArg List.head? h
  rw [head?_text, head?_text] at hhead
  have hinitial := CodePoint.ofChar_injective (Option.some.inj hhead)
  -- The initials leave two phrases of one kind, and then the numbers behind the same words are the same.
  cases phrase with
  | locksRespected m =>
    cases other with
    | locksRespected n => exact congrArg locksRespected (Text.ofInt_inj.mp (List.append_cancel_left h))
    | _ => simp [initial] at hinitial
  | notFound m =>
    cases other with
    | notFound n => exact congrArg notFound (Text.ofNat_inj.mp (List.append_cancel_left h))
    | _ => simp [initial] at hinitial
  | skippedByPolicy m =>
    cases other with
    | skippedByPolicy n => exact congrArg skippedByPolicy (Text.ofInt_inj.mp (List.append_cancel_left h))
    | _ => simp [initial] at hinitial
  | _ => cases other <;> simp_all [initial]

theorem Phrase.text_mem_map (phrase : Phrase) {phrases : List Phrase} :
    phrase.text ∈ phrases.map Phrase.text ↔ phrase ∈ phrases :=
  List.mem_map_of_injective Phrase.text_injective

end Summary
end DeckEdit
