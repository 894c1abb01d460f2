import DeckEdit.Proofs.Entries
import DeckEdit.Proofs.Json.Token
import DeckEdit.Proofs.Span.Prose
import Mathlib.Data.List.Induction

/-! What the reader can give: values that nest as deep as it was allowed to go, integers with as many digits
    as a literal may have, and objects in which no name stands twice. -/

namespace DeckEdit
namespace Json

/-- The reader can give this value if it may go that deep. -/
inductive Fits : Nat → Json → Prop where
  | null {depth : Nat} : Fits depth .null
  | bool {depth : Nat} (b : Bool) : Fits depth (.bool b)
  | int {depth : Nat} {i : Int} (hdigits : i.natAbs < 10 ^ maxIntegerDigits) : Fits depth (.int i)
  | float {depth : Nat} (f : Binary64) : Fits depth (.float f)
  | text {depth : Nat} (t : Text) : Fits depth (.text t)
  | array {depth : Nat} {items : List Json} (hitems : ∀ v ∈ items, Fits depth v) :
      Fits (depth + 1) (.array items)
  | object {depth : Nat} {members : Members} (hnames : (Entries.keys members).Nodup)
      (hmembers : ∀ member ∈ members, Fits depth member.2) : Fits (depth + 1) (.object members)

theorem Fits.of_writes {depth : Nat} {writes : Members} (h : ∀ member ∈ writes, Fits depth member.2) :
    Fits (depth + 1) (.object (Entries.ofWrites writes)) := by
  have hnone : (Entries.keys ([] : Members)).Nodup := List.nodup_nil
  refine .object (Entries.nodup_keys_setAll hnone writes) fun member hmember => ?_
  exact h member ((Entries.mem_setAll hmember).resolve_right List.not_mem_nil)

/-! ### Tokens -/

theorem digitsValue_append (digits : Text) (c : CodePoint) :
    digitsValue (digits ++ [c]) = 10 * digitsValue digits + (c.val - '0'.toNat) := by
  simp [digitsValue]

theorem digitsValue_lt {digits : Text} (h : ∀ c ∈ digits, isDigit c = true) :
    digitsValue digits < 10 ^ digits.length := by
  induction digits using List.reverseRecOn with
  | nil => decide
  | append_singleton digits c ih =>
    have hdigits := ih fun d hd => h d (List.mem_append_left _ hd)
    have hc : c.val - '0'.toNat < 10 := by
      have hhigh : c.val ≤ 57 := of_decide_eq_true (Bool.and_eq_true_iff.mp (h c (by simp))).2
      have hzero : '0'.toNat = 48 := rfl
      omega
    rw [digitsValue_append, List.length_append, List.length_singleton, Nat.pow_succ]
    omega

theorem isDigit_of_wholePart? {t whole rest : Text} (h : wholePart? t = some (whole, rest)) :
    ∀ c ∈ whole, isDigit c = true := by
  unfold wholePart? at h
  split at h
  · cases h
    intro c hc
    rw [List.mem_singleton.mp hc]
    rfl
  · split at h
    · cases h
    · have hrun : digitRun t = (whole, rest) := Option.some.inj h
      rw [digitRun, List.span_eq_takeWhile_dropWhile] at hrun
      cases hrun
      exact fun c hc => List.all_eq_true.mp List.all_takeWhile c hc

theorem fits_of_unsigned {depth : Nat} {start t rest : Text} {negative : Bool} {v : Json}
    (h : unsigned start negative t = .ok (v, rest)) : Fits depth v := by
  unfold unsigned at h
  split at h
  · cases h
  · rename_i whole after hwhole
    dsimp only at h
    split at h
    · split at h
      · cases h
      · rename_i hlength
        cases h
        have habs : (if negative then -(digitsValue whole : Int) else digitsValue whole).natAbs =
            digitsValue whole := by
          split <;> omega
        refine .int ?_
        rw [habs]
        exact Nat.lt_of_lt_of_le (digitsValue_lt (isDigit_of_wholePart? hwhole))
          (Nat.pow_le_pow_right (by decide) (Nat.not_lt.mp hlength))
    · cases h
      exact .float _

theorem fits_of_mem_words {depth : Nat} {entry : Text × Json} (h : entry ∈ words) : Fits depth entry.2 := by
  simp only [words, List.mem_cons, List.not_mem_nil, or_false] at h
  rcases h with rfl | rfl | rfl | rfl | rfl | rfl
  · exact .null
  · exact .bool true
  · exact .bool false
  all_goals exact .float _

theorem fits_of_number {depth : Nat} {t rest : Text} {v : Json} (h : number t = .ok (v, rest)) :
    Fits depth v := by
  unfold number at h
  split at h
  · exact fits_of_unsigned h
  · exact fits_of_unsigned h

theorem fits_of_atom {depth : Nat} {t rest : Text} {v : Json} (h : atom t = .ok (v, rest)) :
    Fits depth v := by
  unfold atom at h
  split at h
  · rename_i found hfound
    cases h
    obtain ⟨entry, hentry, hafter⟩ := List.exists_of_findSome?_eq_some hfound
    obtain ⟨_, -, heq⟩ := Option.map_eq_some_iff.mp hafter
    cases heq
    exact fits_of_mem_words hentry
  · exact fits_of_number h

/-! ### Values -/

def ValueFits (fuel : Nat) : Prop := ∀ {depth : Nat} {t rest : Text} {v : Json},
  value depth fuel t = .ok (v, rest) → Fits depth v

def ItemsFit (fuel : Nat) : Prop := ∀ {depth : Nat} {taken : List Json} {t rest : Text} {v : Json},
  (∀ w ∈ taken, Fits depth w) → items depth taken fuel t = .ok (v, rest) → Fits (depth + 1) v

def MembersFit (fuel : Nat) : Prop :=
  ∀ {depth : Nat} {taken : List (Text × Json)} {t rest : Text} {v : Json},
    (∀ member ∈ taken, Fits depth member.2) → members depth taken fuel t = .ok (v, rest) →
      Fits (depth + 1) v

theorem valueFits_succ {fuel : Nat} (hitems : ItemsFit fuel) (hmembers : MembersFit fuel) :
    ValueFits (fuel + 1) := by
  intro depth t rest v h
  unfold value at h
  split at h
  · split at h
    · cases h
    · cases h
      exact .text _
  · split at h
    · cases h
    · split at h
      · cases h
        exact .array (by simp)
      · exact hitems (by simp) h
  · split at h
    · cases h
    · split at h
      · cases h
        exact .object List.nodup_nil (by simp)
      · exact hmembers (by simp) h
  · exact fits_of_atom h

theorem itemsFit_succ {fuel : Nat} (hvalue : ValueFits fuel) (hitems : ItemsFit fuel) :
    ItemsFit (fuel + 1) := by
  intro depth taken t rest v htaken h
  unfold items at h
  split at h
  · cases h
  · rename_i item after hitem
    have htaken : ∀ w ∈ item :: taken, Fits depth w := List.forall_mem_cons.mpr ⟨hvalue hitem, htaken⟩
    split at h
    · cases h
      exact .array fun w hw => htaken w (List.mem_reverse.mp hw)
    · exact hitems htaken h
    · cases h

theorem membersFit_succ {fuel : Nat} (hvalue : ValueFits fuel) (hmembers : MembersFit fuel) :
    MembersFit (fuel + 1) := by
  intro depth taken t rest v htaken h
  unfold members at h
  split at h
  · split at h
    · cases h
    · rename_i name afterName hname
      split at h
      · split at h
        · cases h
        · rename_i w after hw
          have htaken : ∀ member ∈ (name, w) :: taken, Fits depth member.2 :=
            List.forall_mem_cons.mpr ⟨hvalue hw, htaken⟩
          dsimp only at h
          split at h
          · cases h
            exact .of_writes fun member hmember => htaken member (List.mem_reverse.mp hmember)
          · exact hmembers htaken h
          · cases h
      · cases h
  · cases h

theorem fits_of_readers (fuel : Nat) : ValueFits fuel ∧ ItemsFit fuel ∧ MembersFit fuel := by
  induction fuel with
  | zero =>
    refine ⟨fun h => ?_, fun _ h => ?_, fun _ h => ?_⟩
    · cases h
    · cases h
    · cases h
  | succ fuel ih =>
    obtain ⟨hvalue, hitems, hmembers⟩ := ih
    exact ⟨valueFits_succ hitems hmembers, itemsFit_succ hvalue hitems, membersFit_succ hvalue hmembers⟩

theorem fits_of_readWithin {depth : Nat} {t : Text} {v : Json} (h : readWithin depth t = .ok v) :
    Fits depth v := by
  obtain ⟨rest, hvalue, -⟩ := Span.value_of_readWithin h
  exact (fits_of_readers _).1 hvalue

end Json
end DeckEdit
