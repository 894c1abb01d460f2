import DeckEdit.Proofs.Deck.Frame

/-! The deck after a batch of operations, in closed form: under each key of each element stands what the
    last operation wrote that found the element and writes the key, or else what stood there before.
    An operation finds its element in the slides as the earlier ones left them, so the places are
    recorded along the run. -/

namespace DeckEdit
namespace Deck

/-! ### Where operations find their elements -/

/-- An applied operation with the positions of the slide and of the element that it found. -/
structure Hit where
  op : Op
  slide : Nat
  position : Nat

/-- Where an operation finds its element, unless it is locked. -/
def hit? (locks : Value) (slides : List Json) (op : Op) : Option Hit :=
  match findSlide? slides op with
  | none => none
  | some (p, slide) =>
    if isLocked locks slide op then none
    else (findElement? slide op).map fun (q, _) => ⟨op, p, q⟩

/-- The applied operations of a run, each with the place that it found when it ran. -/
def hits (locks : Value) : List Json → List Op → List Hit
  | _, [] => []
  | slides, op :: rest =>
    match applyOp locks slides op with
    | .error _ => []
    | .ok (next, _) => (hit? locks slides op).toList ++ hits locks next rest

/-- An applied operation changes the first element with its id on the slide it found, and no other. -/
structure Touches (slides : List Json) (hit : Hit) (element changed : Json.Members) (next : List Json) :
    Prop where
  slide : ∃ slide, findSlide? slides hit.op = some (hit.slide, slide) ∧
    IsFirst hit.op.objectId (elements slide) hit.position element
  change : hit.op.change.apply element = .ok changed
  entry : ∀ p q, entryAt? next p q =
    if p = hit.slide ∧ q = hit.position then some (.object changed) else entryAt? slides p q
  otherSlide : ∀ p, p ≠ hit.slide → next[p]? = slides[p]?

section
variable {locks : Value} {slides next last : List Json} {op : Op} {ops rest : List Op}
  {outcome : Outcome} {outcomes : List Outcome}

/-- A step either finds no element to change, or touches the one it found. -/
theorem Step.hit? (h : Step locks slides op next outcome) :
    (outcome ≠ .applied ∧ hit? locks slides op = none ∧ next = slides) ∨
      (outcome = .applied ∧ ∃ hit element changed, hit? locks slides op = some hit ∧ hit.op = op ∧
        Touches slides hit element changed next) := by
  cases h with
  | noSlide hslide => exact Or.inl ⟨by decide, by simp [Deck.hit?, hslide], rfl⟩
  | locked hslide hlock => exact Or.inl ⟨by decide, by simp [Deck.hit?, hslide, hlock], rfl⟩
  | noElement hslide hlock helement =>
    exact Or.inl ⟨by decide, by simp [Deck.hit?, hslide, hlock, helement], rfl⟩
  | @applied p q slide element changed hslide hlock helement hchange =>
    have hfirst := findElement?_eq_some.mp helement
    have hlength : q < (elements slide).length := (List.getElem?_eq_some_iff.mp hfirst.entry).1
    refine Or.inr ⟨rfl, ⟨op, p, q⟩, element, changed, ?_, rfl, ?_⟩
    · simp [Deck.hit?, hslide, hlock, helement]
    · exact ⟨⟨slide, hslide, hfirst⟩, hchange,
        entryAt?_replaceElement (objectAt?_of_findSlide? hslide) hlength changed,
        fun _ hp => List.getElem?_set_ne (Ne.symm hp)⟩

theorem hits_cons (h : Step locks slides op next outcome) :
    hits locks slides (op :: rest) = (hit? locks slides op).toList ++ hits locks next rest := by
  simp [hits, applyOp_eq_ok.mpr h]

/-- The hits of a run are its applied operations, in order. -/
theorem map_op_hits (h : applyOps locks slides ops = .ok (last, outcomes)) :
    (hits locks slides ops).map Hit.op = ((ops.zip outcomes).filter (·.2 == .applied)).map (·.1) := by
  induction ops generalizing slides outcomes with
  | nil => rfl
  | cons op rest ih =>
    obtain ⟨next, outcome, later, hstep, hrest, rfl⟩ := applyOps_cons_eq_ok.mp h
    rw [hits_cons hstep, List.map_append, ih hrest, List.zip_cons_cons]
    rcases hstep.hit? with ⟨hne, hnone, -⟩ | ⟨rfl, hit, _, _, hsome, rfl, -⟩
    · simp [hnone, hne]
    · simp [hsome]

theorem op_mem_of_mem_hits (h : applyOps locks slides ops = .ok (last, outcomes)) {hit : Hit}
    (hhit : hit ∈ hits locks slides ops) : hit.op ∈ ops := by
  have hmem : hit.op ∈ (hits locks slides ops).map Hit.op := List.mem_map_of_mem hhit
  rw [map_op_hits h] at hmem
  obtain ⟨⟨op, outcome⟩, hzip, hop⟩ := List.mem_map.mp hmem
  exact hop ▸ (List.of_mem_zip (List.mem_of_mem_filter hzip)).1

/-- Every operation of a run is a step on the slides that the operations before it left. -/
theorem step_of_outcome (h : applyOps locks slides ops = .ok (last, outcomes)) {i : Nat}
    (hi : (ops.zip outcomes)[i]? = some (op, outcome)) :
    ∃ before earlier next, applyOps locks slides (ops.take i) = .ok (before, earlier) ∧
      Step locks before op next outcome := by
  obtain ⟨hop, houtcome⟩ := List.getElem?_zip_eq_some.mp hi
  obtain ⟨hlt, rfl⟩ := List.getElem?_eq_some_iff.mp hop
  rw [← List.take_append_drop i ops, List.drop_eq_getElem_cons hlt] at h
  obtain ⟨before, earlier, later, hfirst, hsecond, rfl⟩ := applyOps_append_eq_ok.mp h
  obtain ⟨next, first, _, hstep, -, rfl⟩ := applyOps_cons_eq_ok.mp hsecond
  have hlength : earlier.length = i := by
    rw [length_of_applyOps hfirst, List.length_take, Nat.min_eq_left (Nat.le_of_lt hlt)]
  obtain rfl : first = outcome := by simpa [hlength] using houtcome
  exact ⟨before, earlier, next, hfirst, hstep⟩

end

/-! ### The last write -/

/-- What a hit writes under a key of the element at two positions. -/
def Hit.written? (hit : Hit) (p q : Nat) (key : Text) : Option Json :=
  if p = hit.slide ∧ q = hit.position then hit.op.change.written? key else none

/-- What the last of several hits on an element writes under a key. -/
def lastWritten? (hits : List Hit) (p q : Nat) (key : Text) : Option Json :=
  hits.reverse.findSome? fun hit => hit.written? p q key

theorem Touches.valueAt? {slides next : List Json} {hit : Hit} {element changed : Json.Members}
    (h : Touches slides hit element changed next) (p q : Nat) (key : Text) :
    valueAt? next p q key = (hit.written? p q key).or (valueAt? slides p q key) := by
  unfold Deck.valueAt? Hit.written?
  rw [h.entry]
  split
  · rename_i hplace
    obtain ⟨slide, hslide, hfirst⟩ := h.slide
    have hentry : entryAt? slides p q = some (.object element) := by
      simp [entryAt?, hplace.1, hplace.2, objectAt?_of_findSlide? hslide, hfirst.entry]
    simp [hentry, Json.members?, Change.get?_apply h.change]
  · simp

theorem valueAt?_of_applyOps {locks : Value} {slides last : List Json} {ops : List Op}
    {outcomes : List Outcome} (h : applyOps locks slides ops = .ok (last, outcomes)) (p q : Nat)
    (key : Text) : valueAt? last p q key =
      (lastWritten? (hits locks slides ops) p q key).or (valueAt? slides p q key) := by
  induction ops generalizing slides outcomes with
  | nil =>
    cases h
    rfl
  | cons op rest ih =>
    obtain ⟨next, outcome, later, hstep, hrest, -⟩ := applyOps_cons_eq_ok.mp h
    rw [ih hrest, hits_cons hstep]
    rcases hstep.hit? with ⟨-, hnone, rfl⟩ | ⟨-, hit, element, changed, hsome, -, htouch⟩
    · simp [hnone]
    · rw [htouch.valueAt?]
      simp [hsome, lastWritten?, List.findSome?_append, Option.or_assoc]

/-! ### The first hit -/

/-- The first of several hits on the element at two positions. -/
def firstHit? (hits : List Hit) (p q : Nat) : Option Hit :=
  hits.find? fun hit => hit.slide == p && hit.position == q

theorem firstHit?_cons_of_ne {hit : Hit} {p q : Nat} (h : ¬ (p = hit.slide ∧ q = hit.position))
    (rest : List Hit) : firstHit? (hit :: rest) p q = firstHit? rest p q := by
  refine List.find?_cons_of_neg ?_
  simp only [Bool.and_eq_true, beq_iff_eq]
  rintro ⟨rfl, rfl⟩
  exact h ⟨rfl, rfl⟩

/-- An element that ends up different was hit, for the first time under the id that it had from the
    start. -/
theorem exists_firstHit? {locks : Value} {slides last : List Json} {ops : List Op}
    {outcomes : List Outcome} {p q : Nat} (h : applyOps locks slides ops = .ok (last, outcomes))
    (hne : entryAt? last p q ≠ entryAt? slides p q) :
    ∃ hit element, firstHit? (hits locks slides ops) p q = some hit ∧
      entryAt? slides p q = some (.object element) ∧ id? element = some hit.op.objectId := by
  induction ops generalizing slides outcomes with
  | nil =>
    cases h
    exact absurd rfl hne
  | cons op rest ih =>
    obtain ⟨next, outcome, later, hstep, hrest, -⟩ := applyOps_cons_eq_ok.mp h
    rw [hits_cons hstep]
    rcases hstep.hit? with ⟨-, hnone, rfl⟩ | ⟨-, hit, element, changed, hsome, -, htouch⟩
    · simpa [hnone] using ih hrest hne
    · by_cases hplace : p = hit.slide ∧ q = hit.position
      · obtain ⟨rfl, rfl⟩ := hplace
        obtain ⟨slide, hslide, hfirst⟩ := htouch.slide
        refine ⟨hit, element, by simp [hsome, firstHit?], ?_, hfirst.named⟩
        simp [entryAt?, objectAt?_of_findSlide? hslide, hfirst.entry]
      · have hkept : entryAt? next p q = entryAt? slides p q := by rw [htouch.entry, if_neg hplace]
        rw [← hkept] at hne ⊢
        obtain ⟨found, element', hfound, hrest⟩ := ih hrest hne
        refine ⟨found, element', ?_, hrest⟩
        rw [hsome, Option.toList_some, List.singleton_append, firstHit?_cons_of_ne hplace, hfound]

/-- The deck after any operations that can be applied. Its values are those of the last writes; each
    applied operation touched the one element it found, in the slides that the operations before it
    left; all else is as in the copy of the document. -/
theorem apply_closed_form {document locks : Value} {ops : List Op} {result : Result}
    (h : apply document locks ops = .ok result) :
    ∃ deck, document.toJson = .ok (.object deck) ∧
      (hits locks (slides deck) ops).map Hit.op = result.opsWith .applied ∧
      (∀ p q key, valueAt? (slides result.deck) p q key =
        (lastWritten? (hits locks (slides deck) ops) p q key).or (valueAt? (slides deck) p q key)) ∧
      (∀ i op, result.outcomes[i]? = some (op, .applied) →
        ∃ before earlier hit element changed next,
          applyOps locks (slides deck) (ops.take i) = .ok (before, earlier) ∧
          applyOp locks before op = .ok (next, .applied) ∧
          hit? locks before op = some hit ∧ hit.op = op ∧ Touches before hit element changed next) ∧
      DeckKept deck result.deck := by
  obtain ⟨deck, last, outcomes, hdeck, hrun, rfl⟩ := apply_eq_ok.mp h
  have hops := (Result.opsWith_ofOutcomes (withSlides deck last) (ops.zip outcomes) .applied).symm
  refine ⟨deck, hdeck, (map_op_hits hrun).trans hops, fun p q key => ?_, fun i op hi => ?_, ?_⟩
  · rw [Result.deck_ofOutcomes, slides_withSlides]
    exact valueAt?_of_applyOps hrun p q key
  · rw [Result.outcomes_ofOutcomes] at hi
    obtain ⟨before, earlier, next, hbefore, hstep⟩ := step_of_outcome hrun hi
    rcases hstep.hit? with ⟨hne, -, -⟩ | ⟨-, hit, element, changed, hsome, hop, htouch⟩
    · exact absurd rfl hne
    · exact ⟨before, earlier, hit, element, changed, next, hbefore, applyOp_eq_ok.mpr hstep, hsome, hop,
        htouch⟩
  · exact deckKept_withSlides (slidesKept_of_applyOps hrun)

/-- A slide on which two elements share an id. -/
def sharedDeck : Json.Members :=
  [(slidesKey, .array [.object [(idKey, .text "s"), (elementsKey, .array [
    .object [(idKey, .text "a"), ("x", .int 1)],
    .null,
    .object [(idKey, .text "a")],
    .object [(idKey, .text "b")]])]])]

/-- After the first operation the second one finds the other element with its id, and the ones after it
    find the first element under its new id. -/
def sharedOps : List Op :=
  [⟨"a", some "s", none, .setStyle [(idKey, .text "b"), ("text", .text "Old")]⟩,
    ⟨"a", some "s", none, .setText "Other"⟩,
    ⟨"b", none, some 1, .setText "New"⟩,
    ⟨"b", none, some 1, .move none (some (.int 3))⟩,
    ⟨"c", none, some 1, .setText "Lost"⟩]

theorem apply_closed_form_shared :
    let found := hits .null (slides sharedDeck) sharedOps
    ∃ result, apply (.ofJson (.object sharedDeck)) .null sharedOps = .ok result ∧
      found.map (fun hit => (hit.slide, hit.position)) = [(0, 0), (0, 2), (0, 0), (0, 0)] ∧
      (∀ p q key, valueAt? (slides result.deck) p q key =
        (lastWritten? found p q key).or (valueAt? (slides sharedDeck) p q key)) ∧
      DeckKept sharedDeck result.deck := by
  have hrun : apply (.ofJson (.object sharedDeck)) .null sharedOps = .ok _ := rfl
  have hcopy : (Value.ofJson (.object sharedDeck)).toJson = .ok (.object sharedDeck) := rfl
  obtain ⟨deck, hdeck, -, hvalues, -, hkept⟩ := apply_closed_form hrun
  obtain rfl : deck = sharedDeck := by simpa using hdeck.symm.trans hcopy
  exact ⟨_, hrun, rfl, hvalues, hkept⟩

end Deck
end DeckEdit
