import DeckEdit.Proofs.Deck.Batch
import DeckEdit.Proofs.Deck.Layout
import DeckEdit.Proofs.Deck.Overwrite

/-! A batch that is applied once more. Without renames every operation finds its element again and ends as
    before, and each element is written to as it was, in the same order; so the second time changes nothing,
    although single writes undo later ones on the way. -/

namespace DeckEdit
namespace Deck
variable {locks : Value} {slides last : List Json} {ops : List Op} {outcomes : List Outcome}

/-- A run that renames no element ends, on the slides that it leaves, with the same slides. -/
theorem applyOps_again (h : applyOps locks slides ops = .ok (last, outcomes))
    (hkeep : ∀ op ∈ ops, ¬ op.change.Renames) : applyOps locks last ops = .ok (last, outcomes) := by
  have hlayout := layout_of_applyOps h hkeep
  obtain ⟨last', hagain⟩ := exists_applyOps_of_layout h hkeep hlayout.symm
  have hhits : hits locks last ops = hits locks slides ops := by
    rw [hits_eq_filterMap hagain hkeep, hits_eq_filterMap h hkeep,
      show hit? locks last = hit? locks slides from funext fun _ => hit?_congr hlayout]
  have hsame (p q : Nat) : entryAt? last' p q = entryAt? last p q := by
    rw [entryAt?_of_applyOps hagain, hhits, entryAt?_of_applyOps h, Option.map_map,
      Json.overwrite_overwrite]
  rwa [(slidesKept_of_applyOps hagain).eq_of_entryAt? hsame] at hagain

/-- Applying a batch again to the deck that it left gives the same result: the same deck, with its keys in
    the same order, and the same outcome of every operation. -/
theorem apply_again {document : Value} {result : Result} (h : apply document locks ops = .ok result)
    (hkeep : ∀ op ∈ ops, ¬ op.change.Renames) : apply result.document locks ops = .ok result := by
  obtain ⟨deck, last, outcomes, -, hrun, rfl⟩ := apply_eq_ok.mp h
  exact apply_document_eq_ok.mpr ⟨last, outcomes, applyOps_again hrun hkeep, rfl⟩

/-- Operations on `sharedDeck` that write over one another, one on a locked element and one on no element. -/
def overlappingOps : List Op :=
  [⟨"a", some "s", none, .setStyle [("x", .int 5), ("text", .text "Old"), ("fill", .text "red")]⟩,
    ⟨"a", none, some 1, .setText "New"⟩,
    ⟨"a", some "s", none, .move (some (.int 7)) none⟩,
    ⟨"b", none, some 1, .setText "Lost"⟩,
    ⟨"c", none, some 1, .setText "Lost"⟩]

theorem apply_again_overlapping :
    let locks : Value := .list [.text "s:b"]
    ∃ result, apply (.ofJson (.object sharedDeck)) locks overlappingOps = .ok result ∧
      result.outcomes.map (·.2) = [.applied, .applied, .applied, .locked, .missing] ∧
      entryAt? (Deck.slides result.deck) 0 0 = some (.object
        [(idKey, .text "a"), ("x", .int 7), ("text", .text "New"), ("fill", .text "red")]) ∧
      apply result.document locks overlappingOps = .ok result := by
  intro locks
  have hrun : apply (.ofJson (.object sharedDeck)) locks overlappingOps = .ok _ := rfl
  have hkeep : ∀ op ∈ overlappingOps, ¬ op.change.Renames := by decide
  exact ⟨_, hrun, rfl, rfl, apply_again hrun hkeep⟩

end Deck
end DeckEdit
