import DeckEdit.Edit
import DeckEdit.Proofs.Target

/-! How an edit that is carried out comes about: the reply gives a patch, the request gives a policy, and
    the operations that the policy keeps are applied. -/

namespace DeckEdit
namespace Edit

theorem applyPatch_eq_ok {request : Request} {patch : Patch} {report : Report} :
    applyPatch request patch = .ok report ↔ ∃ policy result targets,
      Target.Policy.ofValue request.allowed request.slideIndex = .ok policy ∧
      Deck.apply request.document request.locks (policy.keep patch.ops) = .ok result ∧
      lockedTargets request.document request.locks request.allowed = .ok targets ∧
      report = ⟨patch, result, (policy.filter patch.ops).skipped,
        Text.sortedDistinct ((result.opsWith .locked).map Op.reportToken ++ targets)⟩ := by
  unfold Target.Policy.keep
  cases hpolicy : Target.Policy.ofValue request.allowed request.slideIndex with
  | error fault => simp [applyPatch, hpolicy, bind, Except.bind]
  | ok policy =>
    cases hresult : Deck.apply request.document request.locks (policy.filter patch.ops).ops with
    | error fault => simp [applyPatch, hpolicy, hresult, bind, Except.bind]
    | ok result =>
      cases htargets : lockedTargets request.document request.locks request.allowed with
      | error fault => simp [applyPatch, hpolicy, hresult, htargets, bind, Except.bind]
      | ok targets =>
        simp [applyPatch, hpolicy, hresult, htargets, bind, Except.bind, pure, Except.pure, eq_comm]

theorem run_eq_done {settings : Settings} {request : Request} {report : Report} :
    run settings request = .ok (.done report) ↔ ∃ proposal,
      Reply.parse settings request.reply = .ok proposal ∧
      applyPatch request proposal.patch = .ok report := by
  unfold run
  cases hparse : Reply.parse settings request.reply with
  | error reason => simp
  | ok proposal =>
    cases hpatch : applyPatch request proposal.patch with
    | error fault => simp [hpatch, Except.map]
    | ok report' => simp [hpatch, Except.map]

theorem exists_apply_of_run {settings : Settings} {request : Request} {report : Report}
    (h : run settings request = .ok (.done report)) :
    ∃ ops, Deck.apply request.document request.locks ops = .ok report.result := by
  obtain ⟨proposal, -, hpatch⟩ := run_eq_done.mp h
  obtain ⟨policy, result, targets, -, hresult, -, rfl⟩ := applyPatch_eq_ok.mp hpatch
  exact ⟨_, hresult⟩

theorem exists_apply_of_applyCandidate {document locks candidate : Value} {result : Deck.Result}
    (h : applyCandidate document locks candidate = .ok result) :
    ∃ ops, Deck.apply document locks ops = .ok result := by
  unfold applyCandidate at h
  split at h
  · cases h
  · rename_i patch _
    cases hresult : Deck.apply document locks patch.ops with
    | error fault =>
      rw [hresult] at h
      cases h
    | ok found =>
      rw [hresult] at h
      cases h
      exact ⟨_, hresult⟩

/-! ### Targets -/

theorem lockedTargets_eq_ok {document locks allowed : Value} {targets : List Text} :
    lockedTargets document locks allowed = .ok targets ↔
      (allowed.isTruthy = false ∧ targets = []) ∨ (allowed.isTruthy = true ∧ ∃ keys : List Text,
        allowed.elements?.getD [] = keys.map .text ∧
        targets = keys.filter (Target.isLocked locks (Target.slideId? document))) := by
  unfold lockedTargets
  cases allowed.isTruthy with
  | false => simp [eq_comm]
  | true => simp [Target.locked_eq_ok]

theorem mem_lockedTargets {document locks allowed : Value} {targets : List Text} {key : Text}
    (h : lockedTargets document locks allowed = .ok targets) (hkey : key ∈ targets) :
    Target.isLocked locks (Target.slideId? document) key = true := by
  rcases lockedTargets_eq_ok.mp h with ⟨-, rfl⟩ | ⟨-, keys, -, rfl⟩
  · cases hkey
  · exact (List.mem_filter.mp hkey).2

/-! ### Reports -/

/-- The report of an edit that is carried out. -/
def report? : Except Fault Answer → Option Report
  | .ok (.done report) => some report
  | _ => none

theorem report?_eq_some {answer : Except Fault Answer} {report : Report} :
    report? answer = some report ↔ answer = .ok (.done report) := by
  unfold report?
  split <;> simp_all

end Edit
end DeckEdit
