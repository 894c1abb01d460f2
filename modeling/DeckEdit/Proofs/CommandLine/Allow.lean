import DeckEdit.CommandLine.Options
import Mathlib.Data.List.Basic

/-! Targets that arguments allow. A target is a text, but for one spelling: two hyphens that follow `--allow`
    in the same argument give an empty target, that is none. -/

namespace DeckEdit
namespace CommandLine

/-! ### Groups -/

/-- In a group only the last option takes a value. -/
theorem takesValue_of_expandGroup {before front : List Flag} {flag last : Flag} {t : Text}
    {value : Option Text} (h : expandGroup before flag t = .ok (front, last, value))
    (hbefore : ∀ f ∈ before, f.takesValue = false) : ∀ f ∈ front, f.takesValue = false := by
  induction t generalizing before flag with
  | nil =>
    cases h
    exact hbefore
  | cons c rest ih =>
    rw [expandGroup] at h
    split at h
    · cases h
      exact hbefore
    · rename_i hflag
      split at h
      · refine ih h fun f hf => ?_
        rcases List.mem_append.mp hf with hf | hf
        · exact hbefore f hf
        · rw [List.mem_singleton.mp hf]
          exact Bool.eq_false_iff.mpr hflag
      · cases h

theorem takesValue_of_expand {front : List Flag} {flag last : Flag} {short : Bool} {given value : Option Text}
    (h : expand flag short given = .ok (front, last, value)) : ∀ f ∈ front, f.takesValue = false := by
  unfold expand at h
  split at h
  · cases h
    simp
  · split at h
    · cases h
      simp
    · split at h
      · exact takesValue_of_expandGroup h (by simp)
      · cases h

/-! ### Drafts -/

theorem allow_add {draft changed : Draft} {flag : Flag} {value : Option Text}
    (h : draft.add flag value = .ok changed) :
    changed.allow = if flag = .allow then draft.allow ++ [value] else draft.allow := by
  unfold Draft.add at h
  repeat' split at h
  all_goals first
    | cases h; rfl
    | cases h

/-- Options that take no value leave the targets. -/
theorem allow_addAll {draft changed : Draft} {front : List Flag}
    (h : front.foldlM (fun (draft : Draft) flag => draft.add flag none) draft = .ok changed)
    (hfront : ∀ f ∈ front, f.takesValue = false) : changed.allow = draft.allow := by
  induction front generalizing draft with
  | nil =>
    cases h
    rfl
  | cons f front ih =>
    rw [List.foldlM_cons] at h
    cases hf : draft.add f none with
    | error e =>
      rw [hf] at h
      cases h
    | ok next =>
      have hne : f ≠ .allow := by
        rintro rfl
        cases hfront _ List.mem_cons_self
      rw [hf] at h
      rw [ih h fun g hg => hfront g (List.mem_cons_of_mem f hg), allow_add hf, if_neg hne]

theorem allow_addGroup {draft changed : Draft} {front : List Flag} {last : Flag} {value : Option Text}
    (h : draft.addGroup front last value = .ok changed) (hfront : ∀ f ∈ front, f.takesValue = false) :
    changed.allow = if last = .allow then draft.allow ++ [value] else draft.allow := by
  unfold Draft.addGroup at h
  split at h
  · cases h
  · rename_i middle hmiddle
    rw [allow_add h, allow_addAll hmiddle hfront]

theorem allow_finish {draft : Draft} {others : List Text} {options : Options}
    (h : draft.finish others = .ok options) : options.allow = draft.allow := by
  unfold Draft.finish at h
  split at h
  · cases h
  · cases h
  · cases h
    rfl
  · cases h

/-! ### Arguments -/

/-- The argument is `--allow`, under one of its names and maybe behind other options, with two hyphens as
    its value. -/
def EmptiesAllow (argument : Argument) : Prop :=
  ∃ flag short value front, argument = .option flag short value ∧
    expand flag short value = .ok (front, .allow, some "--")

theorem emptiesAllow_option {flag last : Flag} {short : Bool} {given value : Option Text} {front : List Flag}
    (h : expand flag short given = .ok (front, last, value)) :
    EmptiesAllow (.option flag short given) ↔ last = .allow ∧ value = some "--" := by
  constructor
  · rintro ⟨flag', short', given', front', heq, hexpand⟩
    cases heq
    cases h.symm.trans hexpand
    exact ⟨rfl, rfl⟩
  · rintro ⟨rfl, rfl⟩
    exact ⟨flag, short, given, front, rfl, h⟩

theorem not_emptiesAllow_of_ne {argument : Argument}
    (h : ∀ flag short value, argument ≠ .option flag short value) : ¬ EmptiesAllow argument := by
  rintro ⟨flag, short, value, front, heq, -⟩
  exact h flag short value heq

theorem none_mem_allow_of_readOptions {arguments : List (Text × Argument)} {draft last : Draft}
    {others left : List Text} (h : readOptions draft others arguments = .ok (last, left)) :
    none ∈ last.allow ↔ none ∈ draft.allow ∨ ∃ entry ∈ arguments, EmptiesAllow entry.2 := by
  fun_induction readOptions draft others arguments with
  | case1 =>
    cases h
    simp
  | case2 | case3 | case5 | case6 => cases h
  | case4 draft others t flag short given front flag' next rest htakes draft' hgroup hexpand ih =>
    -- The value is the next argument.
    have hvalue : ¬ EmptiesAllow .value := not_emptiesAllow_of_ne nofun
    have hoption : ¬ EmptiesAllow (.option flag short given) := by simp [emptiesAllow_option hexpand]
    have hallow := allow_addGroup hgroup (takesValue_of_expand hexpand)
    rw [ih h, List.exists_mem_cons_iff, List.exists_mem_cons_iff, or_iff_right hoption, or_iff_right hvalue,
      hallow]
    split <;> simp
  | case7 draft others t flag short given front flag' value rest draft' hgroup hnext hnone hexpand ih =>
    have hallow := allow_addGroup hgroup (takesValue_of_expand hexpand)
    rw [ih h, List.exists_mem_cons_iff, emptiesAllow_option hexpand, hallow, ← or_assoc]
    refine or_congr_left ?_
    by_cases hflag : flag' = .allow
    · subst hflag
      cases value with
      | none => exact absurd rfl (hnone rfl)
      | some t => by_cases ht : t = Text.ofString "--" <;> simp [ht, Option.filter]
    · simp [hflag]
  | case8 draft others t argument rest hne ih =>
    have hoption : ¬ EmptiesAllow argument := not_emptiesAllow_of_ne hne
    rw [ih h, List.exists_mem_cons_iff, or_iff_right hoption]

/-- The options have an empty target exactly if an argument gives one. -/
theorem none_mem_allow_iff {arguments : List Text} {options : Options}
    (h : Options.ofArguments arguments = .ok options) : none ∈ options.allow ↔
      ∃ classified, classifyAll arguments = .ok classified ∧ ∃ entry ∈ classified, EmptiesAllow entry.2 := by
  unfold Options.ofArguments at h
  split at h
  · cases h
  · rename_i classified hclassified
    split at h
    · cases h
    · rename_i draft others hread
      have hallow : options.allow = draft.allow := by
        cases hfinish : draft.finish others with
        | error e =>
          rw [hfinish] at h
          cases h
        | ok finished =>
          rw [hfinish] at h
          cases h
          exact allow_finish hfinish
      rw [hallow, none_mem_allow_of_readOptions hread]
      simp [Draft.empty, hclassified]

end CommandLine
end DeckEdit
