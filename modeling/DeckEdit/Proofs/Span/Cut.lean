import DeckEdit.Proofs.Span.Prose
import Mathlib.Data.List.DropRight

/-! Texts in which nothing is found. An enclosed text that is cut short keeps its first pair open to the
    end, so no span is found in it. And what the reader takes for an object is enclosed, so a reply
    without a span is none when it is read as a whole. -/

namespace DeckEdit
namespace Text

/-- Trimming takes blanks away in front and after that something at the end. -/
theorem trim_prefix (t : Text) : trim t <+: t.dropWhile CodePoint.isBlank :=
  List.rdropWhile_prefix CodePoint.isBlank (t.dropWhile CodePoint.isBlank)

end Text

namespace Span

/-! ### Texts cut short -/

/-- A text that is empty or opens a pair and never closes it. -/
def Unclosed (t : Text) : Prop :=
  t = [] ∨ ∃ (pair : Pair) (body : Text), t = pair.opening :: body ∧ (walk? pair .plain 1 body).isSome

theorem Unclosed.balanced? {t : Text} (h : Unclosed t) : balanced? t = none := by
  obtain rfl | ⟨pair, body, rfl, hwalk⟩ := h
  · rfl
  · simp [Span.balanced?, pair.opened?_opening, closeFrom_eq_none hwalk]

theorem Unclosed.of_prefix {t first : Text} (h : Unclosed t) (hfirst : first <+: t) : Unclosed first := by
  obtain rfl | ⟨pair, body, rfl, hwalk⟩ := h
  · exact .inl (List.prefix_nil.mp hfirst)
  · cases first with
    | nil => exact .inl rfl
    | cons c part =>
      obtain ⟨rfl, hpart⟩ := List.cons_prefix_cons.mp hfirst
      exact .inr ⟨pair, part, rfl, isSome_walk?_of_prefix hpart hwalk⟩

theorem Unclosed.dropWhile_isBlank {t : Text} (h : Unclosed t) : t.dropWhile CodePoint.isBlank = t := by
  obtain rfl | ⟨pair, body, rfl, -⟩ := h
  · rfl
  · exact List.dropWhile_cons_of_neg (by simp [pair.isBlank_opening])

theorem Unclosed.dropWhile_opened? {t : Text} (h : Unclosed t) :
    t.dropWhile (fun c => (Pair.opened? c).isNone) = t := by
  obtain rfl | ⟨pair, body, rfl, -⟩ := h
  · rfl
  · exact List.dropWhile_cons_of_neg (by simp [pair.opened?_opening])

/-- An enclosed text without its last code points never closes its first pair. -/
theorem Enclosed.unclosed {pair : Pair} {t cut : Text} (h : Enclosed pair t) (hcut : cut <+: t)
    (hne : cut ≠ t) : Unclosed cut := by
  obtain ⟨body, rfl, hbody⟩ := h
  have hbegin : cut <+: pair.opening :: body := (List.prefix_concat_iff.mp hcut).resolve_left hne
  refine Unclosed.of_prefix (.inr ⟨pair, body, rfl, ?_⟩) hbegin
  rw [hbody pair 1 Nat.one_pos]
  rfl

/-- Prose in front of an unclosed text opens no pair, so nothing is found in the two. -/
theorem Unclosed.find? {t before : Text} (h : Unclosed t)
    (hbefore : ∀ pair : Pair, pair.opening ∉ before) : find? (before ++ t) = none := by
  have hfront : ∃ blanks, (before ++ t).dropWhile CodePoint.isBlank = blanks ++ t ∧ blanks ⊆ before := by
    rw [List.dropWhile_append, h.dropWhile_isBlank]
    split
    · exact ⟨[], rfl, List.nil_subset _⟩
    · exact ⟨_, rfl, (List.dropWhile_suffix _).subset⟩
  obtain ⟨front, hfront, hsubset⟩ := hfront
  have hclosed : ∀ c ∈ front, (Pair.opened? c).isNone = true := fun c hc =>
    isNone_opened?_of_mem hbefore c (hsubset hc)
  have htrim : Text.trim (before ++ t) <+: front ++ t := hfront ▸ Text.trim_prefix (before ++ t)
  rw [Span.find?]
  -- Trimming ends inside the prose, or it leaves a beginning of the unclosed text.
  rcases List.prefix_or_prefix_of_prefix htrim (List.prefix_append front t) with hshort | hlong
  · rw [List.dropWhile_eq_nil_iff.mpr fun c hc => hclosed c (hshort.subset hc)]
    rfl
  · obtain ⟨rest, hrest⟩ := hlong
    rw [← hrest] at htrim ⊢
    have hunclosed := h.of_prefix ((List.prefix_append_right_inj front).mp htrim)
    rw [List.dropWhile_append_of_pos hclosed, hunclosed.dropWhile_opened?, hunclosed.balanced?]

/-! ### Objects -/

open Json

theorem exists_array_of_items {depth fuel : Nat} {taken : List Json} {t rest : Text} {v : Json}
    (h : items depth taken fuel t = .ok (v, rest)) : ∃ entries, v = .array entries := by
  induction fuel generalizing taken t with
  | zero => cases h
  | succ fuel ih =>
    unfold items at h
    split at h
    · cases h
    · split at h
      · cases h
        exact ⟨_, rfl⟩
      · exact ih h
      · cases h

theorem isNone_members?_of_unsigned {start t rest : Text} {negative : Bool} {v : Json}
    (h : unsigned start negative t = .ok (v, rest)) : v.members?.isNone = true := by
  unfold unsigned at h
  split at h
  · cases h
  · dsimp only at h
    split at h
    · split at h
      · cases h
      · cases h
        rfl
    · cases h
      rfl

theorem isNone_members?_of_number {t rest : Text} {v : Json} (h : number t = .ok (v, rest)) :
    v.members?.isNone = true := by
  unfold number at h
  split at h
  · exact isNone_members?_of_unsigned h
  · exact isNone_members?_of_unsigned h

theorem isNone_members?_of_atom {t rest : Text} {v : Json} (h : atom t = .ok (v, rest)) :
    v.members?.isNone = true := by
  have hwords : (words.all fun entry => entry.2.members?.isNone) = true := by decide
  unfold atom at h
  split at h
  · rename_i found hfound
    cases h
    obtain ⟨entry, hentry, hafter⟩ := List.exists_of_findSome?_eq_some hfound
    obtain ⟨_, -, heq⟩ := Option.map_eq_some_iff.mp hafter
    cases heq
    exact List.all_eq_true.mp hwords entry hentry
  · exact isNone_members?_of_number h

/-- Only a text that starts with a brace is read as an object. -/
theorem eq_opening_of_value {depth fuel : Nat} {t rest : Text} {members : Members}
    (h : value depth fuel t = .ok (.object members, rest)) :
    ∃ body, t = Pair.braces.opening :: body := by
  cases fuel with
  | zero => cases h
  | succ fuel =>
    unfold value at h
    split at h
    · split at h
      · cases h
      · cases h
    · split at h
      · cases h
      · split at h
        · cases h
        · obtain ⟨entries, heq⟩ := exists_array_of_items h
          cases heq
    · exact ⟨_, rfl⟩
    · cases isNone_members?_of_atom h

/-- What is read as an object is an enclosed text between blanks. -/
theorem exists_enclosed_of_read {depth : Nat} {t : Text} {members : Members}
    (h : readWithin depth t = .ok (.object members)) :
    ∃ blanks inner rest, t = blanks ++ inner ++ rest ∧ (∀ c ∈ blanks, isBlank c = true) ∧
      Enclosed .braces inner := by
  obtain ⟨rest, hvalue, -⟩ := value_of_readWithin h
  obtain ⟨body, hbody⟩ := eq_opening_of_value hvalue
  rw [hbody] at hvalue
  obtain ⟨passed, rfl, hpassed⟩ := passes_value hvalue
  refine ⟨t.takeWhile isBlank, Pair.braces.opening :: passed ++ [Pair.braces.closing], rest, ?_,
    fun c hc => List.all_eq_true.mp List.all_takeWhile c hc, ⟨passed, rfl, hpassed⟩⟩
  have hsplit : t.takeWhile isBlank ++ skipBlanks t = t := List.takeWhile_append_dropWhile
  rw [hbody] at hsplit
  simpa using hsplit.symm

/-- A reply that is read as an object when it is taken whole has a span. -/
theorem isSome_find?_of_read {depth : Nat} {reply : Text} {members : Members}
    (h : readWithin depth reply.trim = .ok (.object members)) : (find? reply).isSome = true := by
  obtain ⟨blanks, inner, rest, htrim, hblanks, hinner⟩ := exists_enclosed_of_read h
  have hclosed : ∀ c ∈ blanks, (Pair.opened? c).isNone = true := by
    intro c hc
    have hinert := inert_of_isBlank (hblanks c hc)
    rw [Pair.opened?_eq_none fun pair => (hinert.2 pair).1]
    rfl
  rw [find?, htrim, hinner.balanced?_dropWhile hclosed rest]
  rfl

end Span
end DeckEdit
