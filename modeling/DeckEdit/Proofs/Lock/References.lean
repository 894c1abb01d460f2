import DeckEdit.Proofs.Lock
import DeckEdit.Proofs.Number.Numeral
import Mathlib.Data.List.Basic

/-! A slide that is known by its id and by its index. Each of the two is looked up as if the other were not
    there: to know both neither hides a lock nor makes one up, and the encoding that is found is the one that is
    tried earlier among those that are found under each alone. Only an index of too many digits cannot be
    looked up. -/

namespace DeckEdit
namespace Lock

/-! ### The earlier of two entries -/

section
variable {α : Type}

theorem find?_ne_of_neg {p : α → Bool} {a : α} (h : p a = false) (l : List α) : l.find? p ≠ some a := by
  intro hfound
  rw [List.find?_some hfound] at h
  cases h

variable [DecidableEq α]

/-- Of two entries of a list the one that stands earlier; where there is only one, that one. -/
def earlier (l : List α) : Option α → Option α → Option α
  | some a, some b => some (if l.idxOf a ≤ l.idxOf b then a else b)
  | some a, none => some a
  | none, found => found

theorem earlier_head_left (a : α) (rest : List α) (found : Option α) :
    earlier (a :: rest) (some a) found = some a := by
  cases found with
  | none => rfl
  | some b => simp [earlier]

theorem earlier_head_right {a b : α} (h : b ≠ a) (rest : List α) :
    earlier (a :: rest) (some b) (some a) = some a := by
  simp [earlier, List.idxOf_cons_ne rest h.symm]

/-- An entry in front that is neither of the two does not count. -/
theorem earlier_cons {a : α} {found found' : Option α} (h : found ≠ some a) (h' : found' ≠ some a)
    (rest : List α) : earlier (a :: rest) found found' = earlier rest found found' := by
  rcases found with _ | b <;> rcases found' with _ | c
  · rfl
  · rfl
  · rfl
  · have hb : a ≠ b := fun heq => h (heq ▸ rfl)
    have hc : a ≠ c := fun heq => h' (heq ▸ rfl)
    simp [earlier, List.idxOf_cons_ne rest hb, List.idxOf_cons_ne rest hc]

/-- What is found by either of two conditions is the earlier of what is found by each. -/
theorem find?_or (l : List α) (p q : α → Bool) :
    (l.find? fun a => p a || q a) = earlier l (l.find? p) (l.find? q) := by
  induction l with
  | nil => rfl
  | cons a rest ih =>
    simp only [List.find?_cons]
    -- The head is found if it meets one of the conditions; if it meets none, it is neither of the two entries.
    cases hp : p a with
    | true => exact (earlier_head_left a rest _).symm
    | false =>
      have hpne := find?_ne_of_neg hp rest
      cases hq : q a with
      | true =>
        cases hfound : rest.find? p with
        | none => rfl
        | some b =>
          have hne : b ≠ a := fun heq => hpne (hfound.trans (congrArg some heq))
          exact (earlier_head_right hne rest).symm
      | false =>
        rw [earlier_cons hpne (find?_ne_of_neg hq rest)]
        exact ih

end

/-! ### Look-ups -/

/-- The encodings in which an element is marked under the keys of a slide are those under its id and those
    under its index. -/
theorem matching?_eq (locks : Value) (objectId : Text) (slideId : Option Text) (slideIndex : Option Int) :
    matching? locks objectId slideId slideIndex =
      if objectId.isEmpty then none
      else Encoding.all.find? fun encoding =>
        (slideKeys slideId none).any (marks locks objectId · encoding) ||
          (slideKeys none slideIndex).any (marks locks objectId · encoding) := by
  simp only [matching?, slideKeys_eq_append slideId slideIndex, List.any_append]

/-- The encoding that is found under both is the earlier one of those under the id alone and under the index
    alone. -/
theorem matching?_eq_earlier (locks : Value) (objectId : Text) (slideId : Option Text) (slideIndex : Option Int) :
    matching? locks objectId slideId slideIndex =
      earlier Encoding.all (matching? locks objectId slideId none) (matching? locks objectId none slideIndex) := by
  rw [matching?_eq, find?_or]
  simp only [matching?]
  split
  · rfl
  · rfl

theorem marks_null (objectId slideKey : Text) (encoding : Encoding) :
    marks .null objectId slideKey encoding = false := by
  cases encoding <;> rfl

theorem matching?_null (objectId : Text) (slideId : Option Text) (slideIndex : Option Int) :
    matching? .null objectId slideId slideIndex = none := by
  simp [matching?, marks_null]

theorem matching?_nil (locks : Value) (slideId : Option Text) (slideIndex : Option Int) :
    matching? locks [] slideId slideIndex = none := rfl

/-! ### Indexes of too many digits -/

section
variable {locks : Value} {objectId : Text} {slideId : Option Text} {slideIndex : Option Int}

/-- The index has no more digits than a numeral may have. -/
def Writable (slideIndex : Option Int) : Prop :=
  ∀ i, slideIndex = some i → i.natAbs < 10 ^ Numeral.maxDigits

theorem writable_none : Writable none := nofun

theorem lookUp_of_writable (h : Writable slideIndex) :
    lookUp locks objectId slideId slideIndex = .ok (matching? locks objectId slideId slideIndex) := by
  have hwrite : ∀ tooLong, slideIndex.map Numeral.write ≠ some (.error tooLong) := by
    intro tooLong hwrite
    obtain ⟨i, hi, herror⟩ := Option.map_eq_some_iff.mp hwrite
    cases (Numeral.write_of_lt (h i hi)).symm.trans herror
  unfold lookUp
  split
  · rw [matching?_null]
  · split_ifs with hempty
    · rw [List.isEmpty_iff.mp hempty, matching?_nil]
    · split
      · rename_i tooLong hfail
        exact absurd hfail (hwrite tooLong)
      · rfl

theorem lookUp_of_not_writable (h : ¬ Writable slideIndex) (hlocks : locks ≠ .null) (hid : objectId ≠ []) :
    lookUp locks objectId slideId slideIndex = .error {} := by
  simp only [Writable, not_forall, Nat.not_lt] at h
  obtain ⟨i, rfl, hlong⟩ := h
  unfold lookUp
  split
  · exact absurd rfl hlocks
  · rw [if_neg (by simpa using hid), Option.map_some, Numeral.write_of_le hlong]

/-- A look-up fails exactly if there is something to be looked up and the index has too many digits. -/
theorem exists_check_eq_error_iff : (∃ tooLong, check locks objectId slideId slideIndex = .error tooLong) ↔
    locks ≠ .null ∧ objectId ≠ [] ∧ ¬ Writable slideIndex := by
  constructor
  · rintro ⟨tooLong, hfail⟩
    refine ⟨?_, ?_, fun hwritable => ?_⟩
    · rintro rfl
      cases hfail
    · rintro rfl
      cases locks <;> cases hfail
    · rw [check, lookUp_of_writable hwritable] at hfail
      cases hfail
  · rintro ⟨hlocks, hid, hlong⟩
    exact ⟨{}, by rw [check, lookUp_of_not_writable hlong hlocks hid]; rfl⟩

theorem check_of_writable (h : Writable slideIndex) :
    check locks objectId slideId slideIndex = .ok (isLocked locks objectId slideId slideIndex) := by
  rw [check, lookUp_of_writable h]
  rfl

end

/-- The id of a slide and its index are looked up apart. Unless the index has too many digits, every look-up
    succeeds; the encoding that is found under both is the earlier one of those under the id alone and under
    the index alone, and the element is locked if it is under one of them. With such an index a look-up fails if
    there are locks at all and the id of the element is not empty. -/
theorem looked_up_apart (locks : Value) (objectId : Text) (slideId : Option Text) (slideIndex : Option Int) :
    ((∃ tooLong, check locks objectId slideId slideIndex = .error tooLong) ↔
      locks ≠ .null ∧ objectId ≠ [] ∧ ¬ Writable slideIndex) ∧
    (Writable slideIndex →
      ∃ byId byIndex, lookUp locks objectId slideId none = .ok byId ∧
        lookUp locks objectId none slideIndex = .ok byIndex ∧
        lookUp locks objectId slideId slideIndex = .ok (earlier Encoding.all byId byIndex) ∧
        check locks objectId slideId none = .ok byId.isSome ∧
        check locks objectId none slideIndex = .ok byIndex.isSome ∧
        check locks objectId slideId slideIndex = .ok (byId.isSome || byIndex.isSome)) := by
  refine ⟨exists_check_eq_error_iff, fun hwritable => ?_⟩
  refine ⟨_, _, lookUp_of_writable writable_none, lookUp_of_writable hwritable, ?_,
    check_of_writable writable_none, check_of_writable hwritable, ?_⟩
  · rw [lookUp_of_writable hwritable, matching?_eq_earlier]
  · rw [check_of_writable hwritable, isLocked_eq_or]
    rfl

/-- An element that is locked in one encoding under the id of its slide, and in an earlier one under the index. -/
theorem looked_up_apart_dotted :
    let locks : Value := .dict [(.text "s1.a", .bool true), (.text "1", .dict [(.text "a", .int 1)])]
    lookUp locks "a" (some "s1") none = .ok (some .dotted) ∧ lookUp locks "a" none (some 1) = .ok (some .nested) ∧
      lookUp locks "a" (some "s1") (some 1) = .ok (some .nested) ∧
      check locks "a" (some "s1") (some 1) = .ok true := by
  intro locks
  have hshort : Writable (some 1) := by
    rintro i ⟨⟩
    exact Nat.one_lt_pow (by decide) (by decide)
  obtain ⟨byId, byIndex, hid, hindex, hboth, -, -, hlocked⟩ :=
    (looked_up_apart locks "a" (some "s1") (some 1)).2 hshort
  have hdotted : lookUp locks "a" (some "s1") none = .ok (some .dotted) := by decide
  have hnested : lookUp locks "a" none (some 1) = .ok (some .nested) := by decide
  cases hdotted.symm.trans hid
  cases hnested.symm.trans hindex
  exact ⟨hid, hindex, hboth, hlocked⟩

/-- In an empty list of tokens nothing is locked, and a look-up fails all the same under an index of one digit too
    many. -/
theorem not_looked_up_too_long :
    ¬ ∃ locked, check (.list []) "a" none (some (10 ^ Numeral.maxDigits)) = .ok locked := by
  rintro ⟨locked, hlocked⟩
  have hpow (n : Nat) : (10 ^ n : Int).natAbs = 10 ^ n := by rw [Int.natAbs_pow]; rfl
  have hlong : ¬ Writable (some (10 ^ Numeral.maxDigits)) := fun hshort =>
    Nat.ne_of_lt (hshort _ rfl) (hpow Numeral.maxDigits)
  have hfail : lookUp (.list []) "a" none (some (10 ^ Numeral.maxDigits)) = .error {} :=
    lookUp_of_not_writable hlong nofun (List.cons_ne_nil _ _)
  rw [check, hfail] at hlocked
  cases hlocked

end Lock
end DeckEdit
