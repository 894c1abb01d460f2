import DeckEdit.Proofs.Deck.Lookup

/-! What one operation does to the slides, and what several do one after the other, told apart from the
    count that is kept of them. A step either leaves the slides as they are or puts a changed element in
    the place of the one it found, and a run of steps keeps whatever every step keeps. -/

namespace DeckEdit
namespace Deck

/-! ### Replacing an element -/

@[simp] theorem elements_set (slide : Json.Members) (entries : List Json) :
    elements (slide.set elementsKey (.array entries)) = entries := by
  simp [elements, Entries.get?_set_self]

section
variable {slides : List Json} {slide : Json.Members} {p q : Nat}

theorem objectAt?_replaceElement (hslide : objectAt? slides p = some slide) (element : Json.Members)
    (p' : Nat) : objectAt? (replaceElement slides p slide q element) p' =
      if p' = p then
        some (slide.set elementsKey (.array ((elements slide).set q (.object element))))
      else objectAt? slides p' := by
  have hp : p < slides.length := (List.getElem?_eq_some_iff.mp (objectAt?_eq_some.mp hslide)).1
  by_cases h : p' = p
  · simp [replaceElement, objectAt?, h, hp, Json.members?]
  · simp [replaceElement, objectAt?, h, List.getElem?_set_ne (Ne.symm h)]

/-- Only the entry at the two positions is another one. -/
theorem entryAt?_replaceElement (hslide : objectAt? slides p = some slide)
    (hq : q < (elements slide).length) (element : Json.Members) (p' q' : Nat) :
    entryAt? (replaceElement slides p slide q element) p' q' =
      if p' = p ∧ q' = q then some (.object element) else entryAt? slides p' q' := by
  unfold entryAt?
  rw [objectAt?_replaceElement hslide]
  by_cases hp : p' = p
  · subst hp
    by_cases hq' : q' = q
    · subst hq'
      simp [hq]
    · simp [hq', hslide, List.getElem?_set_ne (Ne.symm hq')]
  · simp [hp]

end

/-! ### One operation -/

/-- The slides after one operation, and what became of it. -/
def applyOp (locks : Value) (slides : List Json) (op : Op) :
    Except NotJson (List Json × Outcome) :=
  match findSlide? slides op with
  | none => .ok (slides, .missing)
  | some (slidePosition, slide) =>
    if isLocked locks slide op then .ok (slides, .locked)
    else
      match findElement? slide op with
      | none => .ok (slides, .missing)
      | some (position, element) =>
        match op.change.apply element with
        | .error cause => .error cause
        | .ok element =>
          .ok (replaceElement slides slidePosition slide position element, .applied)

/-- The slides after several operations, and what became of each. -/
def applyOps (locks : Value) : List Json → List Op → Except NotJson (List Json × List Outcome)
  | slides, [] => .ok (slides, [])
  | slides, op :: rest =>
    match applyOp locks slides op with
    | .error cause => .error cause
    | .ok (slides, outcome) =>
      match applyOps locks slides rest with
      | .error cause => .error cause
      | .ok (slides, outcomes) => .ok (slides, outcome :: outcomes)

/-- What an operation does: `Step locks slides op next outcome` says that the slides become `next`. -/
inductive Step (locks : Value) (slides : List Json) (op : Op) : List Json → Outcome → Prop where
  | noSlide (hslide : findSlide? slides op = none) : Step locks slides op slides .missing
  | locked {p : Nat} {slide : Json.Members} (hslide : findSlide? slides op = some (p, slide))
      (hlock : isLocked locks slide op = true) : Step locks slides op slides .locked
  | noElement {p : Nat} {slide : Json.Members} (hslide : findSlide? slides op = some (p, slide))
      (hlock : isLocked locks slide op = false) (helement : findElement? slide op = none) :
      Step locks slides op slides .missing
  | applied {p q : Nat} {slide element changed : Json.Members}
      (hslide : findSlide? slides op = some (p, slide)) (hlock : isLocked locks slide op = false)
      (helement : findElement? slide op = some (q, element))
      (hchange : op.change.apply element = .ok changed) :
      Step locks slides op (replaceElement slides p slide q changed) .applied

theorem applyOp_eq_ok {locks : Value} {slides next : List Json} {op : Op} {outcome : Outcome} :
    applyOp locks slides op = .ok (next, outcome) ↔ Step locks slides op next outcome := by
  constructor
  · intro h
    unfold applyOp at h
    split at h
    · rename_i hslide
      cases h
      exact .noSlide hslide
    · rename_i p slide hslide
      split at h
      · rename_i hlock
        cases h
        exact .locked hslide hlock
      · rename_i hlock
        have hfree : isLocked locks slide op = false := by simpa using hlock
        split at h
        · rename_i helement
          cases h
          exact .noElement hslide hfree helement
        · rename_i q element helement
          split at h
          · cases h
          · rename_i changed hchange
            cases h
            exact .applied hslide hfree helement hchange
  · intro h
    cases h with
    | noSlide hslide => simp [applyOp, hslide]
    | locked hslide hlock => simp [applyOp, hslide, hlock]
    | noElement hslide hlock helement => simp [applyOp, hslide, hlock, helement]
    | applied hslide hlock helement hchange => simp [applyOp, hslide, hlock, helement, hchange]

/-! ### Several operations -/

section
variable {locks : Value} {slides last : List Json} {op : Op} {rest : List Op} {outcomes : List Outcome}

theorem applyOps_cons_eq_ok : applyOps locks slides (op :: rest) = .ok (last, outcomes) ↔
    ∃ next outcome later, Step locks slides op next outcome ∧
      applyOps locks next rest = .ok (last, later) ∧ outcomes = outcome :: later := by
  simp only [← applyOp_eq_ok]
  constructor
  · intro h
    unfold applyOps at h
    split at h
    · cases h
    · rename_i next outcome hop
      split at h
      · cases h
      · rename_i later hrest
        cases h
        exact ⟨next, outcome, _, hop, hrest, rfl⟩
  · rintro ⟨next, outcome, later, hop, hrest, rfl⟩
    simp [applyOps, hop, hrest]

/-- A run of operations is a run of the first ones and a run of the others on what it leaves. -/
theorem applyOps_append_eq_ok {first second : List Op} :
    applyOps locks slides (first ++ second) = .ok (last, outcomes) ↔
      ∃ middle earlier later, applyOps locks slides first = .ok (middle, earlier) ∧
        applyOps locks middle second = .ok (last, later) ∧ outcomes = earlier ++ later := by
  induction first generalizing slides outcomes with
  | nil =>
    constructor
    · intro h
      exact ⟨slides, [], outcomes, rfl, h, rfl⟩
    · rintro ⟨middle, earlier, later, hfirst, hsecond, rfl⟩
      cases hfirst
      exact hsecond
  | cons op rest ih =>
    simp only [List.cons_append, applyOps_cons_eq_ok, ih]
    constructor
    · rintro ⟨next, outcome, _, hop, ⟨middle, earlier, later, hfirst, hsecond, rfl⟩, rfl⟩
      exact ⟨middle, outcome :: earlier, later, ⟨next, outcome, earlier, hop, hfirst, rfl⟩, hsecond, rfl⟩
    · rintro ⟨middle, _, later, ⟨next, outcome, earlier, hop, hfirst, rfl⟩, hsecond, rfl⟩
      exact ⟨next, outcome, earlier ++ later, hop, ⟨middle, earlier, later, hfirst, hsecond, rfl⟩, rfl⟩

theorem length_of_applyOps {ops : List Op} (h : applyOps locks slides ops = .ok (last, outcomes)) :
    outcomes.length = ops.length := by
  induction ops generalizing slides outcomes with
  | nil =>
    cases h
    rfl
  | cons op rest ih =>
    obtain ⟨next, outcome, later, -, hrest, rfl⟩ := applyOps_cons_eq_ok.mp h
    simp [ih hrest]

/-- A run relates its first slides to its last ones as each of its steps does. -/
theorem applyOps_induction {R : List Json → List Json → Prop} (refl : ∀ s, R s s)
    (trans : ∀ {s t u}, R s t → R t u → R s u)
    (step : ∀ {s t : List Json} {op : Op} {outcome : Outcome}, Step locks s op t outcome → R s t)
    {ops : List Op} (h : applyOps locks slides ops = .ok (last, outcomes)) : R slides last := by
  induction ops generalizing slides outcomes with
  | nil =>
    cases h
    exact refl _
  | cons op rest ih =>
    obtain ⟨next, outcome, later, hop, hrest, -⟩ := applyOps_cons_eq_ok.mp h
    exact trans (step hop) (ih hrest)

end

end Deck
end DeckEdit
