import DeckEdit.Proofs.Deck.Tally
import DeckEdit.Proofs.Lock

/-! Locked elements stay as they are. An operation is checked against the lock of the element it names
    on the slide it found, not against the element it would change, so the argument runs over ids:
    slides keep theirs, and an element that a lock protects under its own id keeps it, since no
    operation gets at it under another one. -/

namespace DeckEdit
namespace Deck
variable {locks : Value} {slides next : List Json} {op : Op} {outcome : Outcome} {p q : Nat}

/-! ### Ids of slides -/

theorem id?_set_elements (slide : Json.Members) (v : Json) : id? (slide.set elementsKey v) = id? slide := by
  have hne : idKey ≠ elementsKey := by decide
  simp only [id?, Entries.get?_set_of_ne hne]

/-- The id of the slide at a position. -/
def slideIdAt? (slides : List Json) (p : Nat) : Option Text :=
  (objectAt? slides p).bind id?

/-- No step changes the id of a slide. -/
theorem Step.slideIdAt? (h : Step locks slides op next outcome) (p : Nat) :
    slideIdAt? next p = slideIdAt? slides p := by
  cases h with
  | noSlide => rfl
  | locked => rfl
  | noElement => rfl
  | applied hslide =>
    have hobject := objectAt?_of_findSlide? hslide
    unfold Deck.slideIdAt?
    rw [objectAt?_replaceElement hobject]
    split
    · rename_i hp
      rw [hp, hobject, Option.bind_some, Option.bind_some, id?_set_elements]
    · rfl

/-! ### Protected elements -/

/-- The element at two positions is locked under the id of its slide and its own id. -/
structure Protected (locks : Value) (slides : List Json) (p q : Nat) (slideId objectId : Text)
    (element : Json.Members) : Prop where
  slide : slideIdAt? slides p = some slideId
  entry : entryAt? slides p q = some (.object element)
  named : id? element = some objectId
  locked : Lock.isLocked locks objectId (some slideId) none = true

theorem Step.protected {slideId objectId : Text} {element : Json.Members}
    (h : Step locks slides op next outcome) (hprot : Protected locks slides p q slideId objectId element) :
    Protected locks next p q slideId objectId element where
  slide := by rw [h.slideIdAt? p, hprot.slide]
  entry := by
    cases h with
    | noSlide => exact hprot.entry
    | locked => exact hprot.entry
    | noElement => exact hprot.entry
    | @applied p' q' slide found changed hslide hlock hfound hchange =>
      have hobject := objectAt?_of_findSlide? hslide
      have hfirst := findElement?_eq_some.mp hfound
      have hlength : q' < (elements slide).length := (List.getElem?_eq_some_iff.mp hfirst.entry).1
      rw [entryAt?_replaceElement hobject hlength, if_neg, hprot.entry]
      rintro ⟨rfl, rfl⟩
      -- The operation found the protected element, hence it names its id, and the lock stops it.
      have hentry : (elements slide)[q]? = some (.object element) := by
        simpa [entryAt?, hobject] using hprot.entry
      have hsame : found = element := by simpa using hfirst.entry.symm.trans hentry
      have hid : op.objectId = objectId := by
        have := hfirst.named.symm.trans (hsame ▸ hprot.named)
        simpa using this
      have hslideId : id? slide = some slideId := by simpa [Deck.slideIdAt?, hobject] using hprot.slide
      have hlocked := Lock.isLocked_of_id hprot.locked op.slideIndex
      rw [isLocked, hid, hslideId, hlocked] at hlock
      cases hlock
  named := hprot.named
  locked := hprot.locked

/-- A run leaves a protected element as it is. -/
theorem protected_of_applyOps {last : List Json} {ops : List Op} {outcomes : List Outcome}
    {slideId objectId : Text} {element : Json.Members}
    (h : applyOps locks slides ops = .ok (last, outcomes))
    (hprot : Protected locks slides p q slideId objectId element) :
    Protected locks last p q slideId objectId element :=
  applyOps_induction (R := fun s t => Protected locks s p q slideId objectId element →
    Protected locks t p q slideId objectId element) (fun _ => id) (fun hst htu => htu ∘ hst)
    (fun hstep => hstep.protected) h hprot

/-- An element that is locked under the ids of its slide and its own is the same after any operations,
    however they address slides and whatever they make of other elements. -/
theorem apply_keeps_locked {document : Value} {ops : List Op} {result : Result} {deck : Json.Members}
    {slide element : Json.Members} {slideId objectId : Text}
    (h : apply document locks ops = .ok result) (hdeck : document.toJson = .ok (.object deck))
    (hslide : (Deck.slides deck)[p]? = some (.object slide)) (hslideId : id? slide = some slideId)
    (helement : (elements slide)[q]? = some (.object element)) (hid : id? element = some objectId)
    (hlock : Lock.isLocked locks objectId (some slideId) none = true) :
    ∃ slide', (Deck.slides result.deck)[p]? = some (.object slide') ∧ id? slide' = some slideId ∧
      (elements slide')[q]? = some (.object element) := by
  obtain ⟨deck', last, outcomes, hdeck', hrun, rfl⟩ := apply_eq_ok.mp h
  obtain rfl : deck' = deck := by simpa using hdeck'.symm.trans hdeck
  have hobject : objectAt? (Deck.slides deck') p = some slide := objectAt?_eq_some.mpr hslide
  have hprot : Protected locks (Deck.slides deck') p q slideId objectId element :=
    ⟨by simp [slideIdAt?, hobject, hslideId], by simp [entryAt?, hobject, helement], hid, hlock⟩
  have hlast := protected_of_applyOps hrun hprot
  obtain ⟨slide', hobject', hid'⟩ := Option.bind_eq_some_iff.mp hlast.slide
  rw [Result.deck_ofOutcomes, slides_withSlides]
  exact ⟨slide', objectAt?_eq_some.mp hobject', hid', by simpa [entryAt?, hobject'] using hlast.entry⟩

/-- A slide with a locked element next to one that is not. -/
def lockedSlide : Json.Members :=
  [(idKey, .text "s1"), (elementsKey, .array [
    .object [(idKey, .text "note"), ("text", .text "Free")],
    .object [(idKey, .text "title"), ("text", .text "Kept")]])]

def lockedDeck : Json.Members :=
  [(slidesKey, .array [.object lockedSlide, .object [(idKey, .text "s2"), (elementsKey, .array [])]])]

/-- Operations on the locked element by the slide's id, by its index, by an id that misses, and by an id
    and an index that differ, after one that gives its id to its neighbour. -/
def lockedOps : List Op :=
  [⟨"note", none, some 1, .setStyle [(idKey, .text "title")]⟩,
    ⟨"title", some "s1", none, .setText "Lost"⟩,
    ⟨"title", none, some 1, .setText "Lost"⟩,
    ⟨"title", some "gone", some 1, .setText "Lost"⟩,
    ⟨"title", some "s1", some 2, .move (some (.int 0)) none⟩]

theorem apply_keeps_locked_renamed :
    let locks : Value := .dict [(.text "s1", .dict [(.text "title", .bool true)])]
    ∃ result slide, apply (.ofJson (.object lockedDeck)) locks lockedOps = .ok result ∧
      result.outcomes.map (·.2) = [.applied, .locked, .locked, .locked, .locked] ∧
      (Deck.slides result.deck)[0]? = some (.object slide) ∧ id? slide = some "s1" ∧
      (elements slide)[1]? = some (.object [(idKey, .text "title"), ("text", .text "Kept")]) := by
  intro locks
  have hrun : apply (.ofJson (.object lockedDeck)) locks lockedOps = .ok _ := rfl
  have hslide : (Deck.slides lockedDeck)[0]? = some (.object lockedSlide) := rfl
  have helement : (elements lockedSlide)[1]? = some (.object _) := rfl
  obtain ⟨slide, hslide', hid, helement'⟩ :=
    apply_keeps_locked hrun rfl hslide rfl helement rfl (by decide)
  exact ⟨_, slide, hrun, rfl, hslide', hid, helement'⟩

end Deck
end DeckEdit
