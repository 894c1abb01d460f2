import DeckEdit.Target
import Mathlib.Data.List.Basic

/-! What a policy lets through. Each operation of a batch is either kept, in its order, or counted as dropped,
    whichever of the two restrictions it breaks. -/

namespace DeckEdit
namespace Target
namespace Policy
variable (policy : Policy) (ops : List Op)

/-- The operations that stay within a policy are kept in their order behind those before them, and each of the
    others is counted, whichever of the two restrictions it breaks. -/
theorem sift_eq (passed : Passed) : policy.sift passed ops =
    ⟨passed.ops ++ ops.filter policy.admits,
      passed.skipped + (ops.filter fun op => !policy.admits op).length⟩ := by
  induction ops generalizing passed with
  | nil => simp [sift]
  | cons op rest ih =>
    cases hslide : policy.otherSlide op with
    | true => simp [sift, ih, admits, hslide, Nat.add_assoc, Nat.add_comm 1]
    | false =>
      cases htarget : policy.otherTarget op <;>
        simp [sift, ih, admits, hslide, htarget, Nat.add_assoc, Nat.add_comm 1]

theorem keep_eq_filter : policy.keep ops = ops.filter policy.admits := by
  rw [keep, filter, sift_eq, List.nil_append]

theorem skipped_eq : (policy.filter ops).skipped = (ops.filter fun op => !policy.admits op).length := by
  rw [filter, sift_eq, Nat.zero_add]

theorem mem_keep {op : Op} : op ∈ policy.keep ops ↔ op ∈ ops ∧ policy.admits op = true := by
  rw [keep_eq_filter, List.mem_filter]

theorem keep_sublist : (policy.keep ops).Sublist ops :=
  policy.keep_eq_filter ops ▸ List.filter_sublist

/-- What is kept and what is dropped come to all of a batch. -/
theorem length_keep_add_skipped : (policy.keep ops).length + (policy.filter ops).skipped = ops.length := by
  rw [keep_eq_filter, skipped_eq]
  exact (List.length_eq_length_filter_add policy.admits).symm

end Policy
end Target
end DeckEdit
