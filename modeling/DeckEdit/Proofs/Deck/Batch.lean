import DeckEdit.Proofs.Deck.Tally

/-! Batches one after the other. What a batch leaves is a deck already, so taking it up again changes
    nothing, and two batches in turn come to the same as the one that holds the operations of both. -/

namespace DeckEdit
namespace Deck

/-- The deck of a result, as a document that can be handed in again. -/
def Result.document (result : Result) : Value :=
  .ofJson (.object result.deck)

/-- It is a deck already, so its copy is the same. -/
theorem Result.toJson_document (result : Result) : result.document.toJson = .ok (.object result.deck) :=
  Value.toJson_ofJson _

/-- What two batches one after the other come to: the deck of the later one, and in each list of
    operations those of the earlier one before those of the later one, which stand behind all of them. -/
structure Result.Joins (earlier later joint : Result) : Prop where
  deck : joint.deck = later.deck
  outcomes : joint.outcomes = earlier.outcomes ++ later.outcomes
  opsWith : ∀ outcome, joint.opsWith outcome = earlier.opsWith outcome ++ later.opsWith outcome
  positions : ∀ outcome, joint.positions outcome =
    earlier.positions outcome ++ (later.positions outcome).map (earlier.total + ·)
  applied : joint.applied = earlier.applied + later.applied
  skippedLocked : joint.skippedLocked = earlier.skippedLocked + later.skippedLocked
  skippedMissing : joint.skippedMissing = earlier.skippedMissing + later.skippedMissing

namespace Result

theorem joins_ofOutcomes (deck deck' : Json.Members) (front back : List (Op × Outcome)) :
    Joins (ofOutcomes deck front) (ofOutcomes deck' back) (ofOutcomes deck' (front ++ back)) where
  deck := rfl
  outcomes := by simp only [outcomes_ofOutcomes]
  opsWith outcome := by simp only [opsWith_ofOutcomes, List.filter_append, List.map_append]
  positions outcome := by
    simp only [positions, listed_ofOutcomes, total_ofOutcomes, placed_append, List.map_append, List.map_map]
    rfl
  applied := List.countP_append
  skippedLocked := List.countP_append
  skippedMissing := List.countP_append

/-- A list of operations is known by the operations and by their places. -/
theorem listed_eq_zip (result : Result) (outcome : Outcome) :
    result.listed outcome = (result.positions outcome).zip (result.opsWith outcome) := by
  rw [positions, opsWith, List.zip_map', List.map_id']

/-- So the two batches leave no choice for what they come to. -/
theorem Joins.unique {earlier later joint joint' : Result} (h : Joins earlier later joint)
    (h' : Joins earlier later joint') : joint = joint' := by
  have hlisted (outcome : Outcome) : joint.listed outcome = joint'.listed outcome := by
    rw [listed_eq_zip, listed_eq_zip, h.positions, h.opsWith, h'.positions, h'.opsWith]
  have happlied : joint.appliedOps = joint'.appliedOps := hlisted .applied
  have hlocked : joint.lockedOps = joint'.lockedOps := hlisted .locked
  have hmissing : joint.missingOps = joint'.missingOps := hlisted .missing
  cases joint
  cases joint'
  simp only [mk.injEq]
  exact ⟨h.deck.trans h'.deck.symm, h.applied.trans h'.applied.symm,
    h.skippedLocked.trans h'.skippedLocked.symm, h.skippedMissing.trans h'.skippedMissing.symm,
    happlied, hlocked, hmissing⟩

end Result

/-- A batch on the deck that a run left goes on from the slides of that run. -/
theorem apply_document_eq_ok {locks : Value} {deck : Json.Members} {slides : List Json}
    {earlier : List (Op × Outcome)} {ops : List Op} {result : Result} :
    apply (Result.ofOutcomes (withSlides deck slides) earlier).document locks ops = .ok result ↔
      ∃ last outcomes, applyOps locks slides ops = .ok (last, outcomes) ∧
        result = .ofOutcomes (withSlides deck last) (ops.zip outcomes) := by
  simp [apply_eq_ok, Result.toJson_document]

/-- A batch can be applied exactly if its first part can, and the rest to the deck that this leaves; and
    what comes of it is what comes of the two parts. -/
theorem apply_append_eq_ok {document locks : Value} {first second : List Op} {result : Result} :
    apply document locks (first ++ second) = .ok result ↔
      ∃ earlier later, apply document locks first = .ok earlier ∧
        apply earlier.document locks second = .ok later ∧ Result.Joins earlier later result := by
  constructor
  · intro h
    obtain ⟨deck, last, outcomes, hdeck, hrun, rfl⟩ := apply_eq_ok.mp h
    obtain ⟨middle, front, back, hfirst, hsecond, rfl⟩ := applyOps_append_eq_ok.mp hrun
    refine ⟨_, _, apply_eq_ok.mpr ⟨deck, middle, front, hdeck, hfirst, rfl⟩,
      apply_document_eq_ok.mpr ⟨last, back, hsecond, rfl⟩, ?_⟩
    rw [List.zip_append (length_of_applyOps hfirst).symm]
    exact Result.joins_ofOutcomes _ _ _ _
  · rintro ⟨earlier, later, hfirst, hsecond, hjoins⟩
    obtain ⟨deck, middle, front, hdeck, hrunFirst, rfl⟩ := apply_eq_ok.mp hfirst
    obtain ⟨last, back, hrunSecond, rfl⟩ := apply_document_eq_ok.mp hsecond
    have hrun : applyOps locks (slides deck) (first ++ second) = .ok (last, front ++ back) :=
      applyOps_append_eq_ok.mpr ⟨middle, front, back, hrunFirst, hrunSecond, rfl⟩
    refine apply_eq_ok.mpr ⟨deck, last, front ++ back, hdeck, hrun, ?_⟩
    rw [List.zip_append (length_of_applyOps hrunFirst).symm]
    exact hjoins.unique (Result.joins_ofOutcomes _ _ _ _)

end Deck
end DeckEdit
