import DeckEdit.Proofs.Json.Fits
import Mathlib.Data.Bool.AllAny

/-! Words and numbers among JSON values. They are made of code points that no other token has, and a
    floating-point number that is read back from its text is read back whatever ends it. -/

namespace DeckEdit
namespace Json

/-! ### Floating-point numbers -/

mutual

/-- The floating-point numbers in a value, in the order in which they are written. -/
def floats : Json → List Binary64
  | float f => [f]
  | array items => itemFloats items
  | object members => memberFloats members
  | _ => []

def itemFloats : List Json → List Binary64
  | [] => []
  | v :: rest => floats v ++ itemFloats rest

def memberFloats : List (Text × Json) → List Binary64
  | [] => []
  | (_, v) :: rest => floats v ++ memberFloats rest

end

theorem itemFloats_eq (items : List Json) : itemFloats items = items.flatMap floats := by
  induction items with
  | nil => rfl
  | cons v rest ih => rw [itemFloats, ih, List.flatMap_cons]

theorem memberFloats_eq (members : List (Text × Json)) :
    memberFloats members = members.flatMap fun member => member.2.floats := by
  induction members with
  | nil => rfl
  | cons member rest ih => rw [memberFloats, ih, List.flatMap_cons]

/-- The text of a number is read as that number. -/
def ReadsBack (f : Binary64) : Prop :=
  read (f.toText Binary64.Spelling.json) = .ok (.float f)

/-! ### Words and numbers -/

/-- A code point of a word or a number: neither blank nor a delimiter nor a mark. -/
def Wordlike (c : CodePoint) : Prop :=
  0x2B ≤ c.val ∧ c.val ≤ 0x7A ∧ c.val ≠ 0x5B ∧ c.val ≠ 0x5D

instance : DecidablePred Wordlike := fun c => by
  unfold Wordlike
  infer_instance

theorem Wordlike.inert {c : CodePoint} (h : Wordlike c) : Span.Inert c := by
  obtain ⟨hlow, hhigh, hopen, hclose⟩ := h
  rw [Span.inert_iff]
  omega

theorem wordlike_of_isDigit {c : CodePoint} (h : isDigit c = true) : Wordlike c := by
  obtain ⟨hle, hge⟩ := Bool.and_eq_true_iff.mp h
  have hlow : 48 ≤ c.val := of_decide_eq_true hle
  have hhigh : c.val ≤ 57 := of_decide_eq_true hge
  unfold Wordlike
  omega

theorem wordlike_of_mem_ofInt {i : Int} : ∀ c ∈ Text.ofInt i, Wordlike c := by
  intro c hc
  unfold Text.ofInt at hc
  split at hc
  · rcases List.mem_cons.mp hc with rfl | hc
    · decide
    · exact wordlike_of_isDigit (isDigit_of_mem_ofNat c hc)
  · exact wordlike_of_isDigit (isDigit_of_mem_ofNat c hc)

theorem wordlike_of_mem_magnitude {m : Nat} {e : Int} :
    ∀ c ∈ (if m = 0 then "0.0" else (Binary64.shortest m e).toText : Text), Wordlike c := by
  have hmarks : ∀ c ∈ (".e+-" : Text), Wordlike c := List.all_iff_forall_prop.mp (by decide)
  have hzero : ∀ c ∈ ("0.0" : Text), Wordlike c := List.all_iff_forall_prop.mp (by decide)
  intro c hc
  split at hc
  · exact hzero c hc
  · rcases Binary64.Decimal.mem_toText hc with ⟨n, hdigit⟩ | hmark
    · exact wordlike_of_isDigit (isDigit_of_mem_ofNat c hdigit)
    · exact hmarks c hmark

theorem wordlike_of_mem_toText {f : Binary64} : ∀ c ∈ f.toText Binary64.Spelling.json, Wordlike c := by
  intro c hc
  cases f with
  | nan =>
    have hword : ∀ c ∈ ("NaN" : Text), Wordlike c := List.all_iff_forall_prop.mp (by decide)
    exact hword c hc
  | infinite negative =>
    cases negative with
    | true =>
      have hword : ∀ c ∈ ("-Infinity" : Text), Wordlike c := List.all_iff_forall_prop.mp (by decide)
      exact hword c hc
    | false =>
      have hword : ∀ c ∈ ("Infinity" : Text), Wordlike c := List.all_iff_forall_prop.mp (by decide)
      exact hword c hc
  | finite negative m e =>
    unfold Binary64.toText at hc
    dsimp only at hc
    split at hc
    · rcases List.mem_cons.mp hc with rfl | hc
      · decide
      · exact wordlike_of_mem_magnitude c hc
    · exact wordlike_of_mem_magnitude c hc

theorem value_eq_atom (depth fuel : Nat) {t : Text} (h : ∀ c ∈ t.head?, Span.Inert c) :
    value depth (fuel + 1) t = atom t := by
  unfold value
  split
  · exact absurd rfl (h _ rfl).1
  · exact absurd rfl ((h _ rfl).2 .brackets).1
  · exact absurd rfl ((h _ rfl).2 .braces).1
  · rfl

theorem Wordlike.isBlank {c : CodePoint} (h : Wordlike c) : isBlank c = false := by
  refine Bool.eq_false_iff.mpr fun hblank => ?_
  simp only [Json.isBlank, Bool.or_eq_true, beq_iff_eq] at hblank
  rcases hblank with ((rfl | rfl) | rfl) | rfl <;> exact absurd h (by decide)

theorem skipBlanks_of_wordlike {t : Text} (h : ∀ c ∈ t, Wordlike c) : skipBlanks t = t := by
  cases t with
  | nil => rfl
  | cons c t => exact List.dropWhile_cons_of_neg (by simp [(h c List.mem_cons_self).isBlank])

/-- A finite number is read from its text as a number, and not as a word. -/
theorem number_of_read {t : Text} {negative : Bool} {m : Nat} {e : Int} (ht : ∀ c ∈ t, Wordlike c)
    (h : read t = .ok (.float (.finite negative m e))) :
    number t = .ok (.float (.finite negative m e), []) := by
  obtain ⟨rest, hvalue, hrest⟩ := Span.value_of_readWithin h
  rw [skipBlanks_of_wordlike ht, value_eq_atom _ _ fun c hc => (ht c (List.mem_of_mem_head? hc)).inert]
    at hvalue
  unfold atom at hvalue
  split at hvalue
  · rename_i found hfound
    cases hvalue
    obtain ⟨entry, hentry, hafter⟩ := List.exists_of_findSome?_eq_some hfound
    obtain ⟨_, -, heq⟩ := Option.map_eq_some_iff.mp hafter
    have hword : entry.2 = .float (.finite negative m e) := (Prod.mk.inj heq).1
    simp only [words, List.mem_cons, List.not_mem_nil, or_false] at hentry
    rcases hentry with rfl | rfl | rfl | rfl | rfl | rfl <;> cases hword
  · obtain ⟨passed, rfl, -⟩ := Span.passes_number hvalue
    rw [skipBlanks_of_wordlike fun c hc => ht c (List.mem_append_right passed hc)] at hrest
    rw [hvalue, hrest]

theorem atom_toText {f : Binary64} (h : ReadsBack f) {rest : Text} (hrest : EndsNumber rest) :
    atom (f.toText Binary64.Spelling.json ++ rest) = .ok (.float f, rest) := by
  cases f with
  | nan => rfl
  | infinite negative => cases negative <;> rfl
  | finite negative m e => exact atom_append hrest (number_of_read wordlike_of_mem_toText h)

end Json
end DeckEdit
