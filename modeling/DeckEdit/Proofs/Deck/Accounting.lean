import DeckEdit.Proofs.Deck.Tally

/-! Every operation of a batch is counted once and listed once. So the operations that were applied, those that a
    lock stopped and those that found nothing are parts of the batch in its order, their positions share
    nothing and leave nothing out, and the counters are their numbers and add up. -/

namespace DeckEdit
namespace Deck

/-- The batch is divided among the outcomes. `positions` are places in the batch, counted from zero. -/
structure Accounts (ops : List Op) (result : Result) : Prop where
  sublist : ∀ outcome, (result.opsWith outcome).Sublist ops
  increasing : ∀ outcome, (result.positions outcome).Pairwise (· < ·)
  named : ∀ outcome, (result.positions outcome).map (ops[·]?) = (result.opsWith outcome).map some
  partition : ∀ i, i < ops.length ↔ ∃ outcome, i ∈ result.positions outcome ∧
    ∀ other, i ∈ result.positions other → other = outcome
  applied : result.applied = (result.positions .applied).length
  skippedLocked : result.skippedLocked = (result.positions .locked).length
  skippedMissing : result.skippedMissing = (result.positions .missing).length
  total : result.total = ops.length

theorem map_getElem?_placed (outcome : Outcome) (entries : List (Op × Outcome)) :
    (placed outcome entries).map (fun (place, _) => (entries.map (·.1))[place]?) =
      (placed outcome entries).map fun (_, op) => some op := by
  refine List.map_congr_left fun (place, op) hmem => ?_
  simp [mem_placed.mp hmem]

namespace Result
variable (deck : Json.Members) {ops : List Op} {outcomes : List Outcome}

/-- In what is made of known outcomes every operation is counted where it stands. -/
theorem accounts_ofOutcomes (h : outcomes.length = ops.length) :
    Accounts ops (ofOutcomes deck (ops.zip outcomes)) := by
  have hops : (ops.zip outcomes).map (·.1) = ops := List.map_fst_zip (Nat.le_of_eq h.symm)
  have hcount : (ops.zip outcomes).length = ops.length := by rw [List.length_zip, h, Nat.min_self]
  have hlisted (outcome : Outcome) : ((ofOutcomes deck (ops.zip outcomes)).positions outcome).length =
      (ops.zip outcomes).countP (·.2 == outcome) := by
    rw [positions, listed_ofOutcomes, List.length_map, length_placed]
  constructor
  case sublist =>
    intro outcome
    rw [opsWith_ofOutcomes]
    simpa only [hops] using (List.filter_sublist (l := ops.zip outcomes)).map Prod.fst
  case increasing =>
    intro outcome
    rw [positions, listed_ofOutcomes]
    exact List.pairwise_lt_range.sublist (map_fst_placed_sublist outcome _)
  case named =>
    intro outcome
    rw [positions, opsWith, listed_ofOutcomes, List.map_map, List.map_map]
    have hnamed := map_getElem?_placed outcome (ops.zip outcomes)
    rwa [hops] at hnamed
  case partition =>
    intro i
    simp only [mem_positions]
    constructor
    · intro hi
      have hzip : i < (ops.zip outcomes).length := hcount ▸ hi
      refine ⟨(ops.zip outcomes)[i].2, ⟨(ops.zip outcomes)[i].1, List.getElem?_eq_getElem hzip⟩, ?_⟩
      rintro other ⟨op, hop⟩
      rw [List.getElem?_eq_getElem hzip] at hop
      rw [Option.some.inj hop]
    · rintro ⟨outcome, ⟨op, hop⟩, -⟩
      exact hcount ▸ (List.getElem?_eq_some_iff.mp hop).1
  case applied => exact (hlisted .applied).symm
  case skippedLocked => exact (hlisted .locked).symm
  case skippedMissing => exact (hlisted .missing).symm
  case total => exact (total_ofOutcomes deck _).trans hcount

end Result

namespace Accounts
variable {ops : List Op} {result : Result}

theorem length_opsWith_applied (h : Accounts ops result) :
    (result.opsWith .applied).length = result.applied := by
  rw [h.applied, Result.opsWith, Result.positions, List.length_map, List.length_map]

theorem length_opsWith_locked (h : Accounts ops result) :
    (result.opsWith .locked).length = result.skippedLocked := by
  rw [h.skippedLocked, Result.opsWith, Result.positions, List.length_map, List.length_map]

end Accounts

/-- Each operation is counted once, where it stands in the batch. -/
theorem accounts_of_apply {document locks : Value} {ops : List Op} {result : Result}
    (h : apply document locks ops = .ok result) : Accounts ops result := by
  obtain ⟨deck, last, outcomes, -, hrun, rfl⟩ := apply_eq_ok.mp h
  exact Result.accounts_ofOutcomes _ (length_of_applyOps hrun)

end Deck
end DeckEdit
