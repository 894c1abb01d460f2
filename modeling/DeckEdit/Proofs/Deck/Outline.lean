import DeckEdit.Proofs.Deck.LockSafety

/-! Which slide an operation finds. That depends on the outline of the slides alone, on which entries are
    objects and on their ids; and since no operation changes the outline, an operation finds its slide where
    it would have found it at the start, whatever was done before it. -/

namespace DeckEdit
namespace Deck
variable {locks : Value} {slides next last s t : List Json} {op : Op} {ops : List Op} {outcome : Outcome}
  {outcomes : List Outcome}

/-- The ids of the slides; none in place of an entry that is no object. -/
def outline (slides : List Json) : List (Option (Option Text)) :=
  slides.map fun v => v.members?.map id?

theorem getElem?_outline (slides : List Json) (p : Nat) :
    ((outline slides)[p]?).join = (objectAt? slides p).map id? := by
  simp only [outline, objectAt?, List.getElem?_map]
  cases slides[p]? <;> rfl

theorem slideIdAt?_eq_outline (slides : List Json) (p : Nat) :
    slideIdAt? slides p = ((outline slides)[p]?).join.join := by
  rw [getElem?_outline, slideIdAt?]
  cases objectAt? slides p <;> rfl

/-! ### Positions -/

theorem map_fst_findId? (id : Text) (slides : List Json) :
    (findId? id slides).map Prod.fst = (outline slides).findIdx? (· == some (some id)) := by
  induction slides with
  | nil => rfl
  | cons v rest ih =>
    by_cases hv : ∃ members, v = .object members ∧ id? members = some id
    · obtain ⟨members, rfl, hid⟩ := hv
      simp [findId?, hid, outline, Json.members?, List.findIdx?_cons]
    · have hne : ∀ members, v = .object members → id? members ≠ some id := fun members hmembers hid =>
        hv ⟨members, hmembers, hid⟩
      have hhead : (v.members?.map id? == some (some id)) = false := by
        cases v with
        | object members => simpa [Json.members?] using hne members rfl
        | _ => rfl
      rw [findId?_cons_of_ne hne, outline, List.map_cons, List.findIdx?_cons, hhead, ← outline, ← ih]
      cases findId? id rest <;> rfl

theorem map_fst_slideAt? (slides : List Json) (index : Int) :
    (slideAt? slides index).map Prod.fst =
      if 1 ≤ index then ((outline slides)[index.toNat - 1]?).join.map fun _ => index.toNat - 1
      else none := by
  unfold slideAt?
  rw [getElem?_outline, objectAt?]
  split
  · rw [Option.map_map, Option.map_map]
    rfl
  · rfl

/-- Slides with the same outline are found in the same places. -/
theorem map_fst_findSlide?_congr (h : outline s = outline t) (op : Op) :
    (findSlide? s op).map Prod.fst = (findSlide? t op).map Prod.fst := by
  have hmap (slides : List Json) : (findSlide? slides op).map Prod.fst =
      ((op.slideId.filter (!·.isEmpty)).bind fun id => (findId? id slides).map Prod.fst).or
        (op.slideIndex.bind fun index => (slideAt? slides index).map Prod.fst) := by
    rw [findSlide?_eq, slideById?, Option.map_or, Option.map_bind, Option.map_bind]
    rfl
  simp only [hmap, map_fst_findId?, map_fst_slideAt?, h]

/-- Slides with the same outline are found under the same ids. -/
theorem exists_findSlide?_congr (h : outline s = outline t) {p : Nat} {slide : Json.Members}
    (hfound : findSlide? s op = some (p, slide)) :
    ∃ slide', findSlide? t op = some (p, slide') ∧ id? slide' = id? slide := by
  have hplace := map_fst_findSlide?_congr h op
  rw [hfound, Option.map_some] at hplace
  obtain ⟨⟨q, slide'⟩, hfound', hq⟩ := Option.map_eq_some_iff.mp hplace.symm
  obtain rfl : q = p := hq
  have hid := congrArg (fun ids => ids[q]?.join) h
  simp only [getElem?_outline, objectAt?_of_findSlide? hfound, objectAt?_of_findSlide? hfound',
    Option.map_some, Option.some.injEq] at hid
  exact ⟨slide', hfound', hid.symm⟩

/-! ### Steps -/

/-- What a list shows of its entries stays if one of them is replaced by one that shows the same. -/
theorem map_set_of_eq {α β : Type} {f : α → β} {l : List α} {i : Nat} {a b : α} (hi : l[i]? = some a)
    (h : f b = f a) : (l.set i b).map f = l.map f := by
  have hat : (l.map f)[i]? = some (f b) := by rw [List.getElem?_map, hi, Option.map_some, h]
  obtain ⟨hlt, hentry⟩ := List.getElem?_eq_some_iff.mp hat
  rw [List.map_set, ← hentry, List.set_getElem_self]

/-- No step changes the outline. -/
theorem Step.outline (h : Step locks slides op next outcome) : outline next = outline slides := by
  cases h with
  | noSlide => rfl
  | locked => rfl
  | noElement => rfl
  | applied hslide =>
    refine map_set_of_eq (objectAt?_eq_some.mp (objectAt?_of_findSlide? hslide)) ?_
    simp only [Json.members?, Option.map_some, id?_set_elements]

theorem outline_of_applyOps (h : applyOps locks slides ops = .ok (last, outcomes)) :
    outline last = outline slides :=
  applyOps_induction (R := fun s t => outline t = outline s) (fun _ => rfl)
    (fun hst htu => htu.trans hst) (fun hstep => hstep.outline) h

end Deck
end DeckEdit
