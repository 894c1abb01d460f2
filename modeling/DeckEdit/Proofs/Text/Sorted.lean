import DeckEdit.Text.Basic
import Mathlib.Data.List.Dedup
import Mathlib.Data.List.Lex
import Mathlib.Order.Fin.Basic

/-! Texts in order, each once. The order is the lexicographic one by code point, which is linear, so two lists
    come to the same sorted one exactly if they hold the same texts. -/

namespace DeckEdit
namespace Text
variable {t : Text} {ts us : List Text}

theorem le_iff {s t : Text} : le s t = true ↔ s ≤ t := by
  induction s generalizing t with
  | nil =>
    refine iff_of_true rfl (le_iff_lt_or_eq.mpr ?_)
    cases t with
    | nil => exact Or.inr rfl
    | cons d t => exact Or.inl .nil
  | cons c s ih =>
    cases t with
    | nil => simp [le]
    | cons d t =>
      rw [le, Bool.or_eq_true, Bool.and_eq_true, decide_eq_true_eq, beq_iff_eq, ih, le_iff_lt_or_eq,
        le_iff_lt_or_eq, List.cons_lt_cons_iff, List.cons.injEq, or_assoc, ← and_or_left]

theorem pairwise_mergeSort_le : (ts.mergeSort le).Pairwise (· ≤ ·) := by
  refine (List.pairwise_mergeSort (fun r s t hrs hst => ?_) (fun s t => ?_) ts).imp le_iff.mp
  · exact le_iff.mpr ((le_iff.mp hrs).trans (le_iff.mp hst))
  · rw [Bool.or_eq_true, le_iff, le_iff]
    exact le_total s t

theorem nodup_eraseDups : ∀ ts : List Text, ts.eraseDups.Nodup
  | [] => List.nodup_nil
  | t :: rest => by
    rw [List.eraseDups_cons, List.nodup_cons, List.mem_eraseDups]
    exact ⟨by simp, nodup_eraseDups _⟩
termination_by ts => ts.length
decreasing_by
  have := List.length_filter_le (fun u => !u == t) rest
  rw [List.length_cons]
  omega

theorem mem_sortedDistinct : t ∈ sortedDistinct ts ↔ t ∈ ts := by
  rw [sortedDistinct, List.mem_mergeSort, List.mem_eraseDups]

theorem nodup_sortedDistinct : (sortedDistinct ts).Nodup :=
  List.nodup_mergeSort.mpr (nodup_eraseDups ts)

theorem pairwise_sortedDistinct : (sortedDistinct ts).Pairwise (· < ·) :=
  pairwise_mergeSort_le.imp₂ (fun _ _ => lt_of_le_of_ne) nodup_sortedDistinct

theorem sortedDistinct_eq_iff : sortedDistinct ts = sortedDistinct us ↔ ∀ t, t ∈ ts ↔ t ∈ us := by
  constructor
  · intro h t
    rw [← mem_sortedDistinct, h, mem_sortedDistinct]
  · intro h
    refine List.Perm.eq_of_pairwise (fun _ _ _ _ => le_antisymm) pairwise_mergeSort_le pairwise_mergeSort_le ?_
    refine (List.perm_ext_iff_of_nodup nodup_sortedDistinct nodup_sortedDistinct).mpr fun t => ?_
    rw [mem_sortedDistinct, mem_sortedDistinct, h]

/-- There are as many as there are different ones. -/
theorem length_sortedDistinct (ts : List Text) : (sortedDistinct ts).length = ts.dedup.length := by
  refine List.Perm.length_eq ((List.perm_ext_iff_of_nodup nodup_sortedDistinct ts.nodup_dedup).mpr fun t => ?_)
  rw [mem_sortedDistinct, List.mem_dedup]

end Text
end DeckEdit
