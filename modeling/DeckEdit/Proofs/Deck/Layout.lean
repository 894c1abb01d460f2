import DeckEdit.Proofs.Deck.LastWrite
import DeckEdit.Proofs.Deck.Outline

/-! Which element an operation finds. That depends on the ids alone, those of the slides and those of the
    elements on each of them. Operations that rename no element leave these ids, so each of them finds, in
    a batch, the element it would have found at the start, and ends as it would have ended there. -/

namespace DeckEdit
namespace Deck
variable {locks : Value} {slides next last s t : List Json} {op : Op} {ops : List Op} {outcome : Outcome}
  {outcomes : List Outcome}

/-- The ids of the slides, each with those of its elements; none in place of an entry that is no object. -/
def layout (slides : List Json) : List (Option (Option Text × List (Option (Option Text)))) :=
  slides.map fun v => v.members?.map fun slide => (id? slide, outline (elements slide))

theorem outline_eq_layout (slides : List Json) :
    outline slides = (layout slides).map (Option.map Prod.fst) := by
  simp [outline, layout, Function.comp_def]

theorem outline_congr (h : layout s = layout t) : outline s = outline t := by
  rw [outline_eq_layout, outline_eq_layout, h]

theorem getElem?_layout (slides : List Json) (p : Nat) :
    ((layout slides)[p]?).join =
      (objectAt? slides p).map fun slide => (id? slide, outline (elements slide)) := by
  simp only [layout, objectAt?, List.getElem?_map]
  cases slides[p]? <;> rfl

/-! ### Look-ups -/

/-- Slides with the same layout are found in the same places, and have elements of the same ids. -/
theorem exists_findSlide?_of_layout (h : layout s = layout t) {p : Nat} {slide : Json.Members}
    (hfound : findSlide? s op = some (p, slide)) :
    ∃ slide', findSlide? t op = some (p, slide') ∧ id? slide' = id? slide ∧
      outline (elements slide') = outline (elements slide) := by
  obtain ⟨slide', hfound', hid⟩ := exists_findSlide?_congr (outline_congr h) hfound
  have hids := congrArg (fun ids => ids[p]?.join) h
  simp only [getElem?_layout, objectAt?_of_findSlide? hfound, objectAt?_of_findSlide? hfound',
    Option.map_some, Option.some.injEq, Prod.mk.injEq] at hids
  exact ⟨slide', hfound', hid, hids.2.symm⟩

theorem map_fst_findElement?_congr {slide slide' : Json.Members}
    (h : outline (elements slide') = outline (elements slide)) (op : Op) :
    (findElement? slide' op).map Prod.fst = (findElement? slide op).map Prod.fst := by
  simp only [findElement?, map_fst_findId?, h]

/-- An operation finds the same place in slides with the same layout. -/
theorem hit?_congr (h : layout s = layout t) : hit? locks s op = hit? locks t op := by
  have hplace := map_fst_findSlide?_congr (outline_congr h) op
  unfold hit?
  cases hs : findSlide? s op with
  | none =>
    rw [hs, Option.map_none] at hplace
    rw [Option.map_eq_none_iff.mp hplace.symm]
  | some found =>
    obtain ⟨p, slide⟩ := found
    obtain ⟨slide', ht, hid, helements⟩ := exists_findSlide?_of_layout h hs
    have hposition := congrArg (Option.map (Hit.mk op p)) (map_fst_findElement?_congr helements op)
    simp only [Option.map_map, Function.comp_def] at hposition
    have hlock : isLocked locks slide' op = isLocked locks slide op := by rw [isLocked, isLocked, hid]
    rw [ht]
    dsimp only
    rw [hlock, hposition]

/-! ### Steps -/

/-- An operation ends alike in slides with the same layout. -/
theorem Step.exists_of_layout (h : Step locks s op next outcome) (hlayout : layout s = layout t) :
    ∃ next', Step locks t op next' outcome := by
  cases h with
  | noSlide hslide =>
    have hplace := map_fst_findSlide?_congr (outline_congr hlayout) op
    rw [hslide, Option.map_none] at hplace
    exact ⟨t, .noSlide (Option.map_eq_none_iff.mp hplace.symm)⟩
  | locked hslide hlock =>
    obtain ⟨slide', hslide', hid, -⟩ := exists_findSlide?_of_layout hlayout hslide
    exact ⟨t, .locked hslide' (by rwa [isLocked, hid])⟩
  | noElement hslide hlock helement =>
    obtain ⟨slide', hslide', hid, helements⟩ := exists_findSlide?_of_layout hlayout hslide
    have hposition := map_fst_findElement?_congr helements op
    rw [helement, Option.map_none] at hposition
    exact ⟨t, .noElement hslide' (by rwa [isLocked, hid]) (Option.map_eq_none_iff.mp hposition)⟩
  | applied hslide hlock helement hchange =>
    obtain ⟨slide', hslide', hid, helements⟩ := exists_findSlide?_of_layout hlayout hslide
    have hposition := map_fst_findElement?_congr helements op
    rw [helement, Option.map_some] at hposition
    obtain ⟨⟨q, element'⟩, helement', -⟩ := Option.map_eq_some_iff.mp hposition
    obtain ⟨written, hwrites, -⟩ := Change.apply_eq_ok.mp hchange
    have hchange' : op.change.apply element' = .ok (Entries.setAll written element') :=
      Change.apply_eq_ok.mpr ⟨written, hwrites, rfl⟩
    exact ⟨_, .applied hslide' (by rwa [isLocked, hid]) helement' hchange'⟩

/-- An operation that renames no element keeps the layout. -/
theorem Step.layout (h : Step locks slides op next outcome) (hkeep : ¬ op.change.Renames) :
    layout next = layout slides := by
  cases h with
  | noSlide => rfl
  | locked => rfl
  | noElement => rfl
  | @applied p q slide element changed hslide _ helement hchange =>
    have hobject := objectAt?_eq_some.mp (objectAt?_of_findSlide? hslide)
    have hentry := (findElement?_eq_some.mp helement).entry
    have helements : Deck.outline ((elements slide).set q (.object changed)) =
        Deck.outline (elements slide) :=
      map_set_of_eq hentry (congrArg some (Change.id?_apply hchange hkeep))
    refine map_set_of_eq hobject ?_
    simp only [Json.members?, Option.map_some, id?_set_elements, elements_set, helements]

/-! ### Runs -/

theorem layout_of_applyOps (h : applyOps locks slides ops = .ok (last, outcomes))
    (hkeep : ∀ op ∈ ops, ¬ op.change.Renames) : layout last = layout slides := by
  induction ops generalizing slides outcomes with
  | nil =>
    cases h
    rfl
  | cons op rest ih =>
    obtain ⟨next, outcome, later, hstep, hrest, -⟩ := applyOps_cons_eq_ok.mp h
    obtain ⟨hop, hlater⟩ := List.forall_mem_cons.mp hkeep
    rw [ih hrest hlater, hstep.layout hop]

/-- A batch that renames no element ends alike on slides with the same layout. -/
theorem exists_applyOps_of_layout (h : applyOps locks s ops = .ok (last, outcomes))
    (hkeep : ∀ op ∈ ops, ¬ op.change.Renames) (hlayout : layout s = layout t) :
    ∃ last', applyOps locks t ops = .ok (last', outcomes) := by
  induction ops generalizing s t outcomes with
  | nil =>
    cases h
    exact ⟨t, rfl⟩
  | cons op rest ih =>
    obtain ⟨next, outcome, later, hstep, hrest, rfl⟩ := applyOps_cons_eq_ok.mp h
    obtain ⟨hop, hlater⟩ := List.forall_mem_cons.mp hkeep
    obtain ⟨next', hstep'⟩ := hstep.exists_of_layout hlayout
    have hnext : layout next = layout next' := by rw [hstep.layout hop, hstep'.layout hop, hlayout]
    obtain ⟨last', hrest'⟩ := ih hrest hlater hnext
    exact ⟨last', applyOps_cons_eq_ok.mpr ⟨next', outcome, later, hstep', hrest', rfl⟩⟩

/-- Its operations find the elements that they would find at the start. -/
theorem hits_eq_filterMap (h : applyOps locks slides ops = .ok (last, outcomes))
    (hkeep : ∀ op ∈ ops, ¬ op.change.Renames) :
    hits locks slides ops = ops.filterMap (hit? locks slides) := by
  induction ops generalizing slides outcomes with
  | nil => rfl
  | cons op rest ih =>
    obtain ⟨next, outcome, later, hstep, hrest, -⟩ := applyOps_cons_eq_ok.mp h
    obtain ⟨hop, hlater⟩ := List.forall_mem_cons.mp hkeep
    have hsame : hit? locks next = hit? locks slides := funext fun _ => hit?_congr (hstep.layout hop)
    rw [hits_cons hstep, ih hrest hlater, hsame]
    cases hit : hit? locks slides op <;> simp [hit]

end Deck
end DeckEdit
