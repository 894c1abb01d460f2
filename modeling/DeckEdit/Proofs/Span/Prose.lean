import DeckEdit.Proofs.Span.Json
import Mathlib.Data.List.TakeWhile

/-! A JSON text in the middle of prose is the span that is found there. What stands before it opens no
    pair, so the scan starts with it; it is level between its delimiters, so the scan ends with it; and
    what stands after it is never looked at. -/

namespace DeckEdit
namespace Text

theorem dropWhile_append_of_head {p : CodePoint → Bool} {c : CodePoint} (hc : p c = false) (t rest : Text) :
    (t ++ c :: rest).dropWhile p = t.dropWhile p ++ c :: rest := by
  rw [List.dropWhile_append]
  split
  · rename_i hempty
    rw [List.isEmpty_iff.mp hempty, List.dropWhile_cons_of_neg (by simp [hc]), List.nil_append]
  · rfl

/-- Trimming stops at the ends of a part that starts and ends without a blank. -/
theorem trim_append {c d : CodePoint} (hc : c.isBlank = false) (hd : d.isBlank = false)
    (before body after : Text) : ∃ after', trim (before ++ (c :: body ++ [d]) ++ after) =
      before.dropWhile CodePoint.isBlank ++ (c :: body ++ [d]) ++ after' := by
  refine ⟨(after.reverse.dropWhile CodePoint.isBlank).reverse, ?_⟩
  have hfront : (before ++ (c :: body ++ [d]) ++ after).dropWhile CodePoint.isBlank =
      before.dropWhile CodePoint.isBlank ++ (c :: body ++ [d]) ++ after := by
    simpa using dropWhile_append_of_head hc before (body ++ d :: after)
  have hback (front : Text) : (front ++ (c :: body ++ [d]) ++ after).reverse.dropWhile CodePoint.isBlank =
      after.reverse.dropWhile CodePoint.isBlank ++ (front ++ (c :: body ++ [d])).reverse := by
    simpa using dropWhile_append_of_head hd after.reverse (body.reverse ++ c :: front.reverse)
  rw [trim, trimBoth, hfront, hback, List.reverse_append, List.reverse_reverse]

end Text

namespace Span

/-! ### Delimiters -/

theorem Pair.isBlank_opening (pair : Pair) : pair.opening.isBlank = false := by
  cases pair <;> decide

theorem Pair.isBlank_closing (pair : Pair) : pair.closing.isBlank = false := by
  cases pair <;> decide

theorem Pair.opened?_opening (pair : Pair) : opened? pair.opening = some pair := by
  cases pair <;> decide

theorem Pair.opened?_eq_none {c : CodePoint} (h : ∀ pair : Pair, c ≠ pair.opening) : opened? c = none := by
  simp [opened?, h .braces, h .brackets]

theorem isNone_opened?_of_mem {before : Text} (hbefore : ∀ pair : Pair, pair.opening ∉ before) :
    ∀ c ∈ before, (Pair.opened? c).isNone = true := by
  intro c hc
  rw [Pair.opened?_eq_none fun pair heq => hbefore pair (heq ▸ hc)]
  rfl

/-! ### Enclosed texts -/

/-- A level text between matching delimiters. -/
def Enclosed (pair : Pair) (t : Text) : Prop :=
  ∃ body, t = pair.opening :: body ++ [pair.closing] ∧ Level body

theorem value_of_readWithin {depth : Nat} {t : Text} {v : Json} (h : Json.readWithin depth t = .ok v) :
    ∃ rest, Json.value depth (2 * t.length + 2) (Json.skipBlanks t) = .ok (v, rest) ∧
      Json.skipBlanks rest = [] := by
  unfold Json.readWithin Json.readWhole at h
  split at h
  · cases h
  · split at h
    · cases h
    · rename_i found rest hvalue
      split at h
      · rename_i hrest
        cases h
        exact ⟨rest, hvalue, hrest⟩
      · cases h

/-- A text that is read as JSON is level between its delimiters. -/
theorem enclosed_of_read {depth : Nat} {pair : Pair} {t : Text} {v : Json}
    (h : Json.readWithin depth t = .ok v) (hopen : t.head? = some pair.opening)
    (hclose : t.getLast? = some pair.closing) : Enclosed pair t := by
  obtain ⟨body, rfl⟩ : ∃ body, t = pair.opening :: body := by
    cases t with
    | nil => cases hopen
    | cons c body => exact ⟨body, by simpa using hopen⟩
  obtain ⟨rest, hvalue, hrest⟩ := value_of_readWithin h
  have hstart : Json.skipBlanks (pair.opening :: body) = pair.opening :: body :=
    List.dropWhile_cons_of_neg (by cases pair <;> decide)
  rw [hstart] at hvalue
  obtain ⟨passed, rfl, hpassed⟩ := passes_value hvalue
  -- Only blanks may follow the value, and the text does not end in one.
  rcases List.eq_nil_or_concat rest with rfl | ⟨blanks, d, rfl⟩
  · exact ⟨passed, rfl, hpassed⟩
  · have hblank := List.dropWhile_eq_nil_iff.mp hrest d (by simp)
    have hlast : d = pair.closing := by
      simpa [List.getLast?_cons, List.getLast?_append] using hclose
    rw [hlast] at hblank
    cases pair <;> exact absurd hblank (by decide)

/-- The scan ends with an enclosed text. -/
theorem Enclosed.balanced? {pair : Pair} {t : Text} (h : Enclosed pair t) (after : Text) :
    balanced? (t ++ after) = some t := by
  obtain ⟨body, rfl, hbody⟩ := h
  have hstop : depthAfter pair .plain 1 pair.closing = 0 := by
    simp [depthAfter, Ne.symm (pair.opening_ne_closing pair)]
  have hscan : closeFrom pair .plain 1 [pair.opening] (body ++ (pair.closing :: after)) =
      some (pair.opening :: body ++ [pair.closing]) := by
    rw [closeFrom_append (hbody pair 1 (by decide)), closeFrom, hstop]
    simp
  simpa [Span.balanced?, pair.opened?_opening] using hscan

/-- The scan starts with an enclosed text if nothing in front of it opens a pair. -/
theorem Enclosed.balanced?_dropWhile {pair : Pair} {t front : Text} (h : Enclosed pair t)
    (hfront : ∀ c ∈ front, (Pair.opened? c).isNone = true) (after : Text) :
    Span.balanced? ((front ++ t ++ after).dropWhile fun c => (Pair.opened? c).isNone) = some t := by
  obtain ⟨body, rfl, -⟩ := id h
  rw [List.append_assoc, List.dropWhile_append_of_pos hfront, List.cons_append, List.cons_append,
    List.dropWhile_cons_of_neg (by simp [pair.opened?_opening])]
  exact h.balanced? after

/-- Prose around an enclosed text does not change what is found. -/
theorem Enclosed.find? {pair : Pair} {t before : Text} (h : Enclosed pair t)
    (hbefore : ∀ pair : Pair, pair.opening ∉ before) (after : Text) :
    find? (before ++ t ++ after) = some t := by
  obtain ⟨body, rfl, -⟩ := id h
  obtain ⟨after', htrim⟩ :=
    Text.trim_append pair.isBlank_opening pair.isBlank_closing before body after
  rw [Span.find?, htrim]
  exact h.balanced?_dropWhile (fun c hc =>
    isNone_opened?_of_mem hbefore c ((List.dropWhile_suffix _).subset hc)) after'

end Span
end DeckEdit
