import DeckEdit.Proofs.Deck.Accounting
import DeckEdit.Proofs.Deck.LastWrite
import DeckEdit.Proofs.Deck.Outline

/-! Which operations a lock stops. The slide of an operation is looked up, and its lock checked, in slides
    that earlier operations may have changed; but both look at the outline only, which no operation
    changes. So a lock stops an operation in a batch exactly if it would stop it alone. -/

namespace DeckEdit
namespace Deck
variable {locks : Value} {slides next last s t : List Json} {op : Op} {ops : List Op} {outcome : Outcome}
  {outcomes : List Outcome}

/-- The operation finds a slide, and its element is locked there, under the slide's id or the index that
    the operation gives. There need not be such an element. -/
def Stopped (locks : Value) (slides : List Json) (op : Op) : Prop :=
  ∃ p slide, findSlide? slides op = some (p, slide) ∧
    Lock.isLocked locks op.objectId (id? slide) op.slideIndex = true

theorem Stopped.of_outline (h : outline s = outline t) (hs : Stopped locks s op) : Stopped locks t op := by
  obtain ⟨p, slide, hfound, hlock⟩ := hs
  obtain ⟨slide', hfound', hid⟩ := exists_findSlide?_congr h hfound
  exact ⟨p, slide', hfound', hid ▸ hlock⟩

theorem Stopped.congr (h : outline s = outline t) : Stopped locks s op ↔ Stopped locks t op :=
  ⟨.of_outline h, .of_outline h.symm⟩

/-- An operation is skipped as locked exactly if a lock stops it on the slides as it finds them. -/
theorem Step.locked_iff (h : Step locks slides op next outcome) :
    outcome = .locked ↔ Stopped locks slides op := by
  have hfree {p : Nat} {slide : Json.Members} (hslide : findSlide? slides op = some (p, slide))
      (hlock : isLocked locks slide op = false) : ¬ Stopped locks slides op := by
    rintro ⟨q, found, hfound, hlocked⟩
    cases hslide.symm.trans hfound
    exact Bool.eq_false_iff.mp hlock hlocked
  cases h with
  | noSlide hslide =>
    refine iff_of_false (by decide) ?_
    rintro ⟨p, slide, hfound, -⟩
    cases hslide.symm.trans hfound
  | locked hslide hlock => exact iff_of_true rfl ⟨_, _, hslide, hlock⟩
  | noElement hslide hlock => exact iff_of_false (by decide) (hfree hslide hlock)
  | applied hslide hlock => exact iff_of_false (by decide) (hfree hslide hlock)

/-- In a run, too, as it finds them at the start. -/
theorem outcome_locked_iff (h : applyOps locks slides ops = .ok (last, outcomes)) {k : Nat}
    (hk : (ops.zip outcomes)[k]? = some (op, outcome)) : outcome = .locked ↔ Stopped locks slides op := by
  obtain ⟨before, earlier, next, hbefore, hstep⟩ := step_of_outcome h hk
  rw [hstep.locked_iff, Stopped.congr (outline_of_applyOps hbefore)]

theorem mem_positions_locked {document : Value} {deck : Json.Members} {result : Result} {k : Nat}
    (h : apply document locks ops = .ok result) (hdeck : document.toJson = .ok (.object deck))
    (hop : ops[k]? = some op) :
    k ∈ result.positions .locked ↔ Stopped locks (Deck.slides deck) op := by
  obtain ⟨deck', last, outcomes, hdeck', hrun, rfl⟩ := apply_eq_ok.mp h
  obtain rfl : deck' = deck := by simpa using hdeck'.symm.trans hdeck
  rw [Result.mem_positions]
  obtain ⟨hlt, -⟩ := List.getElem?_eq_some_iff.mp hop
  have hk : k < outcomes.length := by rwa [length_of_applyOps hrun]
  have hat : (ops.zip outcomes)[k]? = some (op, outcomes[k]) :=
    List.getElem?_zip_eq_some.mpr ⟨hop, List.getElem?_eq_getElem hk⟩
  rw [← outcome_locked_iff hrun hat]
  constructor
  · rintro ⟨found, hfound⟩
    exact (Prod.mk.inj (Option.some.inj (hat.symm.trans hfound))).2
  · intro hlocked
    exact ⟨op, by rw [hat, hlocked]⟩

theorem mem_opsWith_locked {document : Value} {deck : Json.Members} {result : Result}
    (h : apply document locks ops = .ok result) (hdeck : document.toJson = .ok (.object deck)) :
    op ∈ result.opsWith .locked ↔ op ∈ ops ∧ Stopped locks (Deck.slides deck) op := by
  have hnamed := (accounts_of_apply h).named .locked
  constructor
  · intro hop
    have hsome : some op ∈ (result.positions .locked).map (ops[·]?) := hnamed ▸ List.mem_map_of_mem hop
    obtain ⟨k, hk, hat⟩ := List.mem_map.mp hsome
    exact ⟨List.mem_of_getElem? hat, (mem_positions_locked h hdeck hat).mp hk⟩
  · rintro ⟨hop, hstopped⟩
    obtain ⟨k, hat⟩ := List.mem_iff_getElem?.mp hop
    have hk := (mem_positions_locked h hdeck hat).mpr hstopped
    have hsome : some op ∈ (result.opsWith .locked).map some := hnamed ▸ List.mem_map.mpr ⟨k, hk, hat⟩
    simpa using hsome

/-- Which operations are skipped as locked is told from the document as it comes in. So an operation has
    the same fate under the same locks in every batch and at every place in it, and in every document
    with these slide ids, whatever elements stand on the slides. -/
theorem locked_iff_stopped_at_start {document : Value} {result : Result}
    (h : apply document locks ops = .ok result) :
    ∃ deck, document.toJson = .ok (.object deck) ∧
      (∀ k op, ops[k]? = some op →
        (k ∈ result.positions .locked ↔ Stopped locks (Deck.slides deck) op)) ∧
      ∀ {document' : Value} {deck' : Json.Members} {ops' : List Op} {result' : Result},
        document'.toJson = .ok (.object deck') →
        outline (Deck.slides deck') = outline (Deck.slides deck) →
        apply document' locks ops' = .ok result' →
        ∀ k k' op, ops[k]? = some op → ops'[k']? = some op →
          (k' ∈ result'.positions .locked ↔ k ∈ result.positions .locked) := by
  obtain ⟨deck, -, -, hdeck, -, -⟩ := apply_eq_ok.mp h
  refine ⟨deck, hdeck, fun k op hop => mem_positions_locked h hdeck hop, ?_⟩
  intro document' deck' ops' result' hdeck' houtline h' k k' op hop hop'
  rw [mem_positions_locked h hdeck hop, mem_positions_locked h' hdeck' hop']
  exact Stopped.congr houtline

/-- The slides of `lockedDeck` without their elements. -/
def bareDeck : Json.Members :=
  [(slidesKey, .array [.object [(idKey, .text "s1")], .object [(idKey, .text "s2")]])]

/-- The last of `lockedOps` is stopped after an operation that gives the id of its element to another one,
    and alone on slides that have no elements. -/
theorem locked_iff_stopped_at_start_alone :
    let locks : Value := .list [.text "s1:title"]
    ∃ result alone, apply (.ofJson (.object lockedDeck)) locks lockedOps = .ok result ∧
      apply (.ofJson (.object bareDeck)) locks (lockedOps.drop 4) = .ok alone ∧
      Stopped locks (Deck.slides lockedDeck) ⟨"title", some "s1", some 2, .move (some (.int 0)) none⟩ ∧
      4 ∈ result.positions .locked ∧ 0 ∈ alone.positions .locked := by
  intro locks
  have hrun : apply (.ofJson (.object lockedDeck)) locks lockedOps = .ok _ := rfl
  have halone : apply (.ofJson (.object bareDeck)) locks (lockedOps.drop 4) = .ok _ := rfl
  obtain ⟨deck, hdeck, hlocked, hsame⟩ := locked_iff_stopped_at_start hrun
  obtain rfl : deck = lockedDeck := (Json.object.inj (Except.ok.inj hdeck)).symm
  have hfound : findSlide? (Deck.slides lockedDeck)
      ⟨"title", some "s1", some 2, .move (some (.int 0)) none⟩ = some (0, lockedSlide) := rfl
  have hstopped := (⟨0, lockedSlide, hfound, by decide⟩ : Stopped locks _ _)
  have hfour := (hlocked 4 _ rfl).mpr hstopped
  have hbare : (Value.ofJson (.object bareDeck)).toJson = .ok (.object bareDeck) := rfl
  exact ⟨_, _, hrun, halone, hstopped, hfour, (hsame hbare rfl halone 4 0 _ rfl rfl).mpr hfour⟩

end Deck
end DeckEdit
