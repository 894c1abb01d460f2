import DeckEdit.Proofs.Deck.LastWrite
import DeckEdit.Proofs.Deck.Outline

/-! Which operations get at an element, told from the slides as they were at the start. An operation
    reaches an element if it names it, finds its slide, and no lock holds under the slide's id and the index
    that the operation gives. Where no operation of a batch does, the element stays; where one does, the
    batch is applied to that element of the slide. -/

namespace DeckEdit
namespace Deck
variable {locks : Value} {slides next last s t : List Json} {op : Op} {ops : List Op} {outcome : Outcome}
  {outcomes : List Outcome} {p : Nat} {objectId : Text}

/-- The operation is for the element with that id on the slide at that position, and not locked there. -/
structure Reaches (locks : Value) (slides : List Json) (p : Nat) (objectId : Text) (op : Op) : Prop where
  named : op.objectId = objectId
  slide : (findSlide? slides op).map Prod.fst = some p
  free : Lock.isLocked locks objectId (slideIdAt? slides p) op.slideIndex = false

theorem Reaches.congr (h : outline s = outline t) :
    Reaches locks s p objectId op ↔ Reaches locks t p objectId op := by
  have hslide := map_fst_findSlide?_congr h op
  have hid : slideIdAt? s p = slideIdAt? t p := by
    rw [slideIdAt?_eq_outline, slideIdAt?_eq_outline, h]
  constructor
  · rintro ⟨hnamed, hfound, hfree⟩
    exact ⟨hnamed, hslide ▸ hfound, hid ▸ hfree⟩
  · rintro ⟨hnamed, hfound, hfree⟩
    exact ⟨hnamed, hslide ▸ hfound, hid ▸ hfree⟩

/-- The element is among the elements of the slide. -/
def Holds (slides : List Json) (p : Nat) (objectId : Text) : Prop :=
  ∃ q element, entryAt? slides p q = some (.object element) ∧ id? element = some objectId

/-! ### One operation -/

theorem reaches_of_hit? {hit : Hit} (h : hit? locks slides op = some hit) :
    hit.op = op ∧ Reaches locks slides hit.slide hit.op.objectId op := by
  unfold hit? at h
  split at h
  · cases h
  · rename_i found slide hslide
    split at h
    · cases h
    · rename_i hfree
      obtain ⟨⟨q, element⟩, -, rfl⟩ := Option.map_eq_some_iff.mp h
      refine ⟨rfl, rfl, by rw [hslide]; rfl, ?_⟩
      rw [slideIdAt?, objectAt?_of_findSlide? hslide]
      simpa [isLocked] using hfree

theorem exists_hit?_of_reaches (h : Reaches locks slides p objectId op) (hholds : Holds slides p objectId) :
    ∃ hit, hit? locks slides op = some hit ∧ hit.slide = p ∧ hit.op.objectId = objectId := by
  obtain ⟨rfl, hfound, hfree⟩ := h
  obtain ⟨⟨found, slide⟩, hslide, rfl⟩ := Option.map_eq_some_iff.mp hfound
  have hobject := objectAt?_of_findSlide? hslide
  obtain ⟨q, element, hentry, hid⟩ := hholds
  have hlock : isLocked locks slide op = false := by
    rw [slideIdAt?, hobject] at hfree
    simpa [isLocked] using hfree
  rw [entryAt?, hobject, Option.bind_some] at hentry
  obtain ⟨⟨first, found⟩, helement⟩ := exists_findId? hentry hid
  exact ⟨⟨op, _, first⟩, by simp [hit?, hslide, hlock, findElement?, helement], rfl, rfl⟩

/-- A step that does not reach an element leaves it. -/
theorem Step.entryAt?_of_not_reaches (h : Step locks slides op next outcome)
    (hop : ¬ Reaches locks slides p objectId op) {q : Nat} {element : Json.Members}
    (hentry : entryAt? slides p q = some (.object element)) (hid : id? element = some objectId) :
    entryAt? next p q = some (.object element) := by
  rcases h.hit? with ⟨-, -, rfl⟩ | ⟨-, hit, found, changed, hsome, -, htouch⟩
  · exact hentry
  · rw [htouch.entry, if_neg, hentry]
    rintro ⟨rfl, rfl⟩
    obtain ⟨slide, hslide, hfirst⟩ := htouch.slide
    rw [entryAt?, objectAt?_of_findSlide? hslide, Option.bind_some, hfirst.entry] at hentry
    cases hentry
    obtain rfl := Option.some.inj (hfirst.named.symm.trans hid)
    exact hop (reaches_of_hit? hsome).2

/-! ### Several operations -/

/-- Elements that no operation reaches stay as they are. -/
theorem entryAt?_of_not_reaches (h : applyOps locks slides ops = .ok (last, outcomes))
    (hops : ∀ op ∈ ops, ¬ Reaches locks slides p objectId op) {q : Nat} {element : Json.Members}
    (hentry : entryAt? slides p q = some (.object element)) (hid : id? element = some objectId) :
    entryAt? last p q = some (.object element) := by
  induction ops generalizing slides outcomes with
  | nil =>
    cases h
    exact hentry
  | cons op rest ih =>
    obtain ⟨next, outcome, later, hstep, hrest, -⟩ := applyOps_cons_eq_ok.mp h
    refine ih hrest (fun later hlater => ?_)
      (hstep.entryAt?_of_not_reaches (hops op List.mem_cons_self) hentry hid)
    rw [Reaches.congr hstep.outline]
    exact hops later (List.mem_cons_of_mem op hlater)

/-- Every operation that is applied reaches the element that it is applied to. -/
theorem reaches_of_mem_hits (h : applyOps locks slides ops = .ok (last, outcomes)) {hit : Hit}
    (hhit : hit ∈ hits locks slides ops) : Reaches locks slides hit.slide hit.op.objectId hit.op := by
  induction ops generalizing slides outcomes with
  | nil => cases hhit
  | cons op rest ih =>
    obtain ⟨next, outcome, later, hstep, hrest, -⟩ := applyOps_cons_eq_ok.mp h
    rw [hits_cons hstep, List.mem_append] at hhit
    rcases hhit with hhead | hlater
    · obtain ⟨rfl, hreaches⟩ := reaches_of_hit? (Option.mem_toList.mp hhead)
      exact hreaches
    · exact (Reaches.congr hstep.outline).mp (ih hrest hlater)

/-- Some operation is applied to an element with that id on the slide exactly if one reaches it. -/
theorem exists_hit_iff_reaches (h : applyOps locks slides ops = .ok (last, outcomes))
    (hholds : Holds slides p objectId) :
    (∃ hit ∈ hits locks slides ops, hit.slide = p ∧ hit.op.objectId = objectId) ↔
      ∃ op ∈ ops, Reaches locks slides p objectId op := by
  constructor
  · rintro ⟨hit, hhit, rfl, rfl⟩
    exact ⟨hit.op, op_mem_of_mem_hits h hhit, reaches_of_mem_hits h hhit⟩
  · rintro ⟨op, hop, hreaches⟩
    induction ops generalizing slides outcomes with
    | nil => cases hop
    | cons first rest ih =>
      obtain ⟨next, outcome, later, hstep, hrest, -⟩ := applyOps_cons_eq_ok.mp h
      simp only [hits_cons hstep, List.mem_append]
      by_cases hfirst : Reaches locks slides p objectId first
      · obtain ⟨hit, hsome, hplace⟩ := exists_hit?_of_reaches hfirst hholds
        exact ⟨hit, Or.inl (Option.mem_toList.mpr hsome), hplace⟩
      · have hlater : op ∈ rest := by
          rcases List.mem_cons.mp hop with rfl | hlater
          · exact absurd hreaches hfirst
          · exact hlater
        obtain ⟨q, element, hentry, hid⟩ := hholds
        have hkept := hstep.entryAt?_of_not_reaches hfirst hentry hid
        obtain ⟨hit, hhit, hplace⟩ := ih hrest ⟨q, element, hkept, hid⟩ hlater
          ((Reaches.congr hstep.outline).mpr hreaches)
        exact ⟨hit, Or.inr hhit, hplace⟩

end Deck
end DeckEdit
