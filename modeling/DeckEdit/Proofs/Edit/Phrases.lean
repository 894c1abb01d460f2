import DeckEdit.Proofs.Edit.BlockedCount

/-! The phrases of a report against its record: each phrase is there exactly if the counter or the list that it
    tells of is not empty, with the number that the record has. The count of blocked targets is taken where
    there are any, and that of the locked operations where there are none; since a locked operation is always
    reported as blocked, the two never say different things. -/

namespace DeckEdit
namespace Edit
open Summary
variable {settings : Settings} {request : Request} {report : Report}

/-- The phrases tell what the record says: one clause a phrase, and the order in which they stand. -/
structure Tells (report : Report) (phrases : List Text) : Prop where
  nothingApplied : Text.ofString "No changes applied" ∈ phrases ↔ report.counters.applied = 0
  updated : Text.ofString "Updated text/style" ∈ phrases ↔
    ∃ op ∈ report.result.opsWith .applied, op.change.kind = .setText ∨ op.change.kind = .setStyle
  moved : Text.ofString "Moved elements" ∈ phrases ↔
    ∃ op ∈ report.result.opsWith .applied, op.change.kind = .move
  locksRespected (n : Nat) : "Locks respected: " ++ Text.ofNat n ∈ phrases ↔
    report.blocked ≠ [] ∧ n = report.blocked.length
  notFound (n : Nat) : "Targets not found: " ++ Text.ofNat n ∈ phrases ↔
    n = report.counters.skippedMissing ∧ 0 < n
  skippedByPolicy (n : Nat) : "Skipped by policy: " ++ Text.ofNat n ∈ phrases ↔
    n = report.counters.skippedPolicy ∧ 0 < n
  ordered : phrases.Sublist
    ["No changes applied", "Updated text/style", "Moved elements",
      "Locks respected: " ++ Text.ofNat report.blocked.length,
      "Targets not found: " ++ Text.ofNat report.counters.skippedMissing,
      "Skipped by policy: " ++ Text.ofNat report.counters.skippedPolicy]

theorem kind_ne_move_iff {kind : ChangeKind} : kind ≠ .move ↔ kind = .setText ∨ kind = .setStyle := by
  cases kind <;> decide

theorem count_iff {m n : Nat} : n ≠ 0 ∧ n = m ↔ n = m ∧ 0 < n := by
  rw [and_comm, Nat.pos_iff_ne_zero]

theorem Tells.of_run (h : run settings request = .ok (.done report)) :
    Tells report (report.summary.map Phrase.text) where
  nothingApplied := by
    obtain ⟨ops, haccounts⟩ := accounts_of_run h
    refine (Phrase.text_mem_map _).trans (nothingApplied_mem_describe.trans ?_)
    rw [← List.length_eq_zero_iff, haccounts.length_opsWith_applied]
    rfl
  updated := by
    refine (Phrase.text_mem_map _).trans (updated_mem_describe.trans ?_)
    simp only [kind_ne_move_iff]
  moved := (Phrase.text_mem_map _).trans moved_mem_describe
  locksRespected n := by
    refine (Phrase.text_mem_map (.locksRespected n)).trans ?_
    rw [locksRespected_mem_summary h, Int.natCast_inj, and_comm]
  notFound n := (Phrase.text_mem_map (.notFound n)).trans (notFound_mem_describe.trans count_iff)
  skippedByPolicy n := by
    refine (Phrase.text_mem_map (.skippedByPolicy n)).trans (skippedByPolicy_mem_describe.trans ?_)
    rw [Int.natCast_ne_zero, Int.natCast_inj]
    exact count_iff
  ordered := by
    have hsublist := (describe_sublist report.result report.skippedPolicy report.blocked.length).map Phrase.text
    rw [lockedCount_eq h] at hsublist
    exact hsublist

/-- The phrases of a report say what its record says, in one order and nothing else. The targets that it reports
    as blocked are in strictly increasing order, and there are some if an operation has been skipped as
    locked. -/
theorem phrases_tell_record (h : run settings request = .ok (.done report)) :
    Tells report (report.summary.map Phrase.text) ∧ report.blocked.Pairwise (· < ·) ∧
      (0 < report.counters.skippedLocked → report.blocked ≠ []) := by
  refine ⟨.of_run h, ?_, fun hlocked hnil => ?_⟩
  · obtain ⟨targets, -, hblocked⟩ := blocked_eq h
    rw [hblocked]
    exact Text.pairwise_sortedDistinct
  · have hzero : report.counters.skippedLocked = 0 := skippedLocked_of_blocked_eq_nil h hnil
    omega

/-- An operation of each outcome, and two blocked targets, one of which no operation is on. -/
def toldRequest : Request where
  reply := mixedRequest.reply
  document := mixedRequest.document
  locks := .list [.text "1:b", .text "s1:d"]
  allowed := .list [.text "1:d", .text "1:a", .text "1:b", .text "1:c"]
  slideIndex := some 1

theorem phrases_tell_record_mixed : ∃ report, run Settings.default toldRequest = .ok (.done report) ∧
    report.counters = ⟨1, 1, 1, 1⟩ ∧ report.blocked.length = 2 ∧ report.blocked.Pairwise (· < ·) ∧
    Text.ofString "Locks respected: 2" ∈ report.summary.map Phrase.text ∧
    Text.ofString "Moved elements" ∉ report.summary.map Phrase.text := by
  have hany : ((report? (run Settings.default toldRequest)).any fun report =>
      report.counters == ⟨1, 1, 1, 1⟩ && (report.result.opsWith .locked).map Op.reportToken == [Text.ofString "1:b"] &&
        (report.result.opsWith .applied).all fun op => op.change.kind != .move) = true := by
    decide +kernel
  obtain ⟨report, hreport, hfacts⟩ := (Option.any_eq_true _ _).mp hany
  simp only [Bool.and_eq_true, beq_iff_eq, List.all_eq_true, bne_iff_ne] at hfacts
  obtain ⟨⟨hcounters, htokens⟩, hkinds⟩ := hfacts
  have hrun := report?_eq_some.mp hreport
  obtain ⟨htells, hsorted, hblocked⟩ := phrases_tell_record hrun
  have hlength : report.blocked.length = 2 := by
    obtain ⟨targets, htargets, hlist⟩ := blocked_eq hrun
    have hlocked : lockedTargets toldRequest.document toldRequest.locks toldRequest.allowed =
        .ok [Text.ofString "1:d", Text.ofString "1:b"] := by decide +kernel
    cases hlocked.symm.trans htargets
    rw [hlist, htokens, Text.length_sortedDistinct]
    decide
  refine ⟨report, hrun, hcounters, hlength, hsorted, ?_, fun hmoved => ?_⟩
  · exact (htells.locksRespected 2).mpr ⟨hblocked (by simp [hcounters]), hlength.symm⟩
  · obtain ⟨op, hop, hmove⟩ := htells.moved.mp hmoved
    exact hkinds op hop hmove

end Edit
end DeckEdit
