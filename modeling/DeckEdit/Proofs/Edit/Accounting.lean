import DeckEdit.Proofs.Deck.Accounting
import DeckEdit.Proofs.Edit.Run
import DeckEdit.Proofs.Target.Policy

/-! An edit counts every operation of its patch once: those that the policy keeps by what became of them,
    and the others as skipped by policy. -/

namespace DeckEdit
namespace Edit
open Target

theorem accounts_of_run {settings : Settings} {request : Request} {report : Report}
    (h : run settings request = .ok (.done report)) : ∃ ops, Deck.Accounts ops report.result := by
  obtain ⟨ops, hresult⟩ := exists_apply_of_run h
  exact ⟨ops, Deck.accounts_of_apply hresult⟩

/-- Whatever is applied is accounted for, operation by operation; and what an edit counts is, all in all, the
    operations of the patch that its reply gives, those that the policy drops among them. -/
theorem every_op_counted :
    (∀ {document locks : Value} {ops : List Op} {result : Deck.Result},
      Deck.apply document locks ops = .ok result → Deck.Accounts ops result) ∧
    ∀ {settings : Settings} {request : Request} {report : Report},
      run settings request = .ok (.done report) →
      ∃ policy proposal, Policy.ofValue request.allowed request.slideIndex = .ok policy ∧
        Reply.parse settings request.reply = .ok proposal ∧ report.patch = proposal.patch ∧
        (policy.keep report.patch.ops).Sublist report.patch.ops ∧
        Deck.Accounts (policy.keep report.patch.ops) report.result ∧
        report.skippedPolicy = (report.patch.ops.filter fun op => !policy.admits op).length ∧
        report.counters.total = report.patch.ops.length := by
  refine ⟨Deck.accounts_of_apply, fun {settings request report} h => ?_⟩
  obtain ⟨proposal, hparse, hpatch⟩ := run_eq_done.mp h
  obtain ⟨policy, result, targets, hpolicy, hresult, -, rfl⟩ := applyPatch_eq_ok.mp hpatch
  have haccounts := Deck.accounts_of_apply hresult
  refine ⟨policy, proposal, hpolicy, hparse, rfl, policy.keep_sublist _, haccounts,
    policy.skipped_eq _, ?_⟩
  calc
    result.total + (policy.filter proposal.patch.ops).skipped
      = (policy.keep proposal.patch.ops).length + (policy.filter proposal.patch.ops).skipped := by
        rw [haccounts.total]
    _ = proposal.patch.ops.length := policy.length_keep_add_skipped _

/-- Two elements on the one slide of a deck. -/
def pairDeck : Json.Members :=
  [(Deck.slidesKey, .array [.object [(Deck.idKey, .text "s1"), (Deck.elementsKey, .array [
    .object [(Deck.idKey, .text "a")], .object [(Deck.idKey, .text "b")]])]])]

/-- A request for the first slide, and a reply with an operation of each outcome: on an element, on one that
    is locked, on one that is not there, and on another slide. -/
def mixedRequest : Request where
  reply := some ("\x7b\"ops\": [" ++
    "\x7b\"op\": \"set_text\", \"slideIndex\": 1, \"objectId\": \"a\", \"text\": \"new\"\x7d, " ++
    "\x7b\"op\": \"set_text\", \"slideIndex\": 1, \"objectId\": \"b\", \"text\": \"new\"\x7d, " ++
    "\x7b\"op\": \"move\", \"slideIndex\": 1, \"objectId\": \"c\", \"x\": 1\x7d, " ++
    "\x7b\"op\": \"move\", \"slideIndex\": 2, \"objectId\": \"a\", \"x\": 1\x7d]\x7d")
  document := .ofJson (.object pairDeck)
  locks := .list [.text "1:b"]
  allowed := .null
  slideIndex := some 1

theorem every_op_counted_mixed : ∃ report, run Settings.default mixedRequest = .ok (.done report) ∧
    report.counters = ⟨1, 1, 1, 1⟩ ∧ report.patch.ops.length = 4 ∧
    Deck.apply mixedRequest.document mixedRequest.locks (Policy.keep ⟨[], some 1⟩ report.patch.ops) =
      .ok report.result ∧
    Deck.Accounts (Policy.keep ⟨[], some 1⟩ report.patch.ops) report.result := by
  have hany : ((report? (run Settings.default mixedRequest)).any fun report =>
      report.counters == ⟨1, 1, 1, 1⟩) = true := by
    decide +kernel
  obtain ⟨report, hreport, hcounters⟩ := (Option.any_eq_true _ _).mp hany
  have hcounters : report.counters = ⟨1, 1, 1, 1⟩ := beq_iff_eq.mp hcounters
  have hrun := report?_eq_some.mp hreport
  obtain ⟨-, -, -, -, -, -, -, -, htotal⟩ := every_op_counted.2 hrun
  rw [hcounters] at htotal
  obtain ⟨proposal, -, hpatch⟩ := run_eq_done.mp hrun
  obtain ⟨policy, result, targets, hpolicy, hresult, -, rfl⟩ := applyPatch_eq_ok.mp hpatch
  obtain rfl : policy = ⟨[], some 1⟩ := (Except.ok.inj hpolicy).symm
  exact ⟨_, hrun, hcounters, htotal.symm, hresult, every_op_counted.1 hresult⟩

end Edit
end DeckEdit
