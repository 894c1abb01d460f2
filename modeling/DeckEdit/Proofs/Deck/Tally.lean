import DeckEdit.Proofs.Deck.Step

/-! The count that is kept of a batch. Each way through a turn raises one counter and lengthens the list that
    goes with it; so after every turn the counters and lists are those of the outcomes so far, and after the
    last one the deck is the one that the operations leave. -/

namespace DeckEdit
namespace Deck

/-! ### Results of known outcomes -/

/-- The operations with that outcome, each with its place. -/
def placed (outcome : Outcome) (entries : List (Op × Outcome)) : List (Nat × Op) :=
  (entries.zipIdx.filter (·.1.2 == outcome)).map fun (entry, place) => (place, entry.1)

@[simp] theorem placed_singleton (outcome found : Outcome) (op : Op) :
    placed outcome [(op, found)] = if found = outcome then [(0, op)] else [] := by
  by_cases h : found = outcome <;> simp [placed, h]

/-- Behind other operations the places are further back. -/
theorem placed_append (outcome : Outcome) (front back : List (Op × Outcome)) :
    placed outcome (front ++ back) = placed outcome front ++
      (placed outcome back).map fun (place, op) => (front.length + place, op) := by
  have hback : back.zipIdx front.length =
      back.zipIdx.map fun (entry, place) => (entry, front.length + place) := by
    rw [List.zipIdx_eq_map_add]
  unfold placed
  rw [List.zipIdx_append, Nat.zero_add, List.filter_append, List.map_append, hback, List.filter_map,
    List.map_map, List.map_map]
  rfl

theorem mem_placed {outcome : Outcome} {entries : List (Op × Outcome)} {place : Nat} {op : Op} :
    (place, op) ∈ placed outcome entries ↔ entries[place]? = some (op, outcome) := by
  rw [placed, List.mem_map]
  constructor
  · rintro ⟨⟨⟨found, other⟩, i⟩, hmem, heq⟩
    obtain ⟨hzip, hother⟩ := List.mem_filter.mp hmem
    obtain rfl : other = outcome := beq_iff_eq.mp hother
    cases heq
    exact List.mem_zipIdx_iff_getElem?.mp hzip
  · intro hat
    exact ⟨((op, outcome), place), List.mem_filter.mpr ⟨List.mem_zipIdx_iff_getElem?.mpr hat,
      beq_self_eq_true outcome⟩, rfl⟩

theorem map_snd_placed (outcome : Outcome) (entries : List (Op × Outcome)) :
    (placed outcome entries).map (·.2) = (entries.filter (·.2 == outcome)).map (·.1) := by
  have hfilter : entries.filter (·.2 == outcome) =
      (entries.zipIdx.filter (·.1.2 == outcome)).map (·.1) := by
    calc
      entries.filter (·.2 == outcome)
        = (entries.zipIdx.map Prod.fst).filter (·.2 == outcome) := by rw [List.zipIdx_map_fst]
      _ = (entries.zipIdx.filter (·.1.2 == outcome)).map (·.1) := List.filter_map
  rw [placed, hfilter, List.map_map, List.map_map]
  rfl

theorem map_fst_placed_sublist (outcome : Outcome) (entries : List (Op × Outcome)) :
    ((placed outcome entries).map (·.1)).Sublist (List.range entries.length) := by
  have h : ((entries.zipIdx.filter (·.1.2 == outcome)).map (·.2)).Sublist (entries.zipIdx.map (·.2)) :=
    List.filter_sublist.map _
  rw [List.zipIdx_map_snd, ← List.range_eq_range'] at h
  rw [placed, List.map_map]
  exact h

theorem length_placed (outcome : Outcome) (entries : List (Op × Outcome)) :
    (placed outcome entries).length = entries.countP (·.2 == outcome) := by
  have h := congrArg List.length (map_snd_placed outcome entries)
  rwa [List.length_map, List.length_map, ← List.countP_eq_length_filter] at h

namespace Result

/-- The result of a batch of which it is known what became of each operation. -/
def ofOutcomes (deck : Json.Members) (entries : List (Op × Outcome)) : Result where
  deck
  applied := entries.countP (·.2 == .applied)
  skippedLocked := entries.countP (·.2 == .locked)
  skippedMissing := entries.countP (·.2 == .missing)
  appliedOps := placed .applied entries
  lockedOps := placed .locked entries
  missingOps := placed .missing entries

variable (deck : Json.Members) (entries : List (Op × Outcome)) (outcome : Outcome)

@[simp] theorem deck_ofOutcomes : (ofOutcomes deck entries).deck = deck := rfl

@[simp] theorem listed_ofOutcomes : (ofOutcomes deck entries).listed outcome = placed outcome entries := by
  cases outcome <;> rfl

@[simp] theorem opsWith_ofOutcomes :
    (ofOutcomes deck entries).opsWith outcome = (entries.filter (·.2 == outcome)).map (·.1) := by
  rw [opsWith, listed_ofOutcomes, map_snd_placed]

theorem mem_positions {place : Nat} : place ∈ (ofOutcomes deck entries).positions outcome ↔
    ∃ op, entries[place]? = some (op, outcome) := by
  rw [positions, listed_ofOutcomes, List.mem_map]
  constructor
  · rintro ⟨⟨place, op⟩, hmem, rfl⟩
    exact ⟨op, mem_placed.mp hmem⟩
  · rintro ⟨op, hat⟩
    exact ⟨(place, op), mem_placed.mpr hat, rfl⟩

theorem total_ofOutcomes : (ofOutcomes deck entries).total = entries.length := by
  unfold total ofOutcomes
  induction entries with
  | nil => rfl
  | cons entry rest ih =>
    obtain ⟨op, outcome⟩ := entry
    cases outcome <;> simp at ih ⊢ <;> omega

/-- What became of the operation at a place, going by the list that has it. -/
def outcomeAt? (result : Result) (place : Nat) : Option (Op × Outcome) :=
  [Outcome.applied, .locked, .missing].findSome? fun outcome =>
    ((result.listed outcome).find? (·.1 == place)).map fun (_, op) => (op, outcome)

/-- The operations of a batch in their order, with what became of each. -/
def outcomes (result : Result) : List (Op × Outcome) :=
  (List.range result.total).filterMap result.outcomeAt?

end Result

theorem find?_placed {outcome found : Outcome} {entries : List (Op × Outcome)} {place : Nat} {op : Op}
    (hat : entries[place]? = some (op, found)) : (placed outcome entries).find? (·.1 == place) =
      if found = outcome then some (place, op) else none := by
  cases hfind : (placed outcome entries).find? (·.1 == place) with
  | none =>
    have hnone := List.find?_eq_none.mp hfind
    rw [if_neg]
    rintro rfl
    exact hnone (place, op) (mem_placed.mpr hat) (beq_self_eq_true place)
  | some pair =>
    obtain ⟨i, other⟩ := pair
    obtain rfl : i = place := beq_iff_eq.mp (List.find?_some hfind :)
    have hother := mem_placed.mp (List.mem_of_find?_eq_some hfind)
    cases hat.symm.trans hother
    rw [if_pos rfl]

theorem Result.outcomeAt?_ofOutcomes (deck : Json.Members) {entries : List (Op × Outcome)} {place : Nat}
    {op : Op} {outcome : Outcome} (hat : entries[place]? = some (op, outcome)) :
    (ofOutcomes deck entries).outcomeAt? place = some (op, outcome) := by
  simp only [outcomeAt?, List.findSome?_cons, listed_ofOutcomes, find?_placed hat]
  cases outcome <;> rfl

theorem filterMap_getElem?_range {α : Type} (l : List α) : (List.range l.length).filterMap (l[·]?) = l := by
  induction l with
  | nil => rfl
  | cons a rest ih =>
    rw [List.length_cons, List.range_succ_eq_map, List.filterMap_cons, List.filterMap_map]
    exact congrArg (a :: ·) ih

/-- What became of each operation can be told from the lists alone. -/
@[simp] theorem Result.outcomes_ofOutcomes (deck : Json.Members) (entries : List (Op × Outcome)) :
    (ofOutcomes deck entries).outcomes = entries := by
  have hat (place : Nat) (h : place ∈ List.range entries.length) :
      (ofOutcomes deck entries).outcomeAt? place = entries[place]? := by
    have hlt := List.mem_range.mp h
    rw [List.getElem?_eq_getElem hlt]
    exact outcomeAt?_ofOutcomes deck (List.getElem?_eq_getElem hlt)
  rw [outcomes, total_ofOutcomes, List.filterMap_congr hat, filterMap_getElem?_range]

/-! ### Turns -/

@[simp] theorem slides_withSlides (deck : Json.Members) (entries : List Json) :
    slides (withSlides deck entries) = entries := by
  simp [slides, withSlides, Entries.get?_set_self]

@[simp] theorem withSlides_withSlides (deck : Json.Members) (entries others : List Json) :
    withSlides (withSlides deck entries) others = withSlides deck others :=
  Entries.set_set _ _ _ _

section
variable {locks : Value} {deck : Json.Members} {slides : List Json} {done : List (Op × Outcome)}

/-- A turn does to the slides what the operation does, and counts it and lists it under its outcome. -/
theorem turn_eq (op : Op) :
    turn locks (.ofOutcomes (withSlides deck slides) done) done.length op =
      (applyOp locks slides op).map fun (next, outcome) =>
        .ofOutcomes (withSlides deck next) (done ++ [(op, outcome)]) := by
  rw [turn, applyOp, Result.deck_ofOutcomes, slides_withSlides]
  cases findSlide? slides op with
  | none => simp [Except.map, Result.ofOutcomes, placed_append]
  | some found =>
    obtain ⟨p, slide⟩ := found
    cases hlock : isLocked locks slide op with
    | true => simp [Except.map, Result.ofOutcomes, placed_append, hlock]
    | false =>
      cases helement : findElement? slide op with
      | none => simp [Except.map, Result.ofOutcomes, placed_append, hlock, helement]
      | some found =>
        obtain ⟨q, element⟩ := found
        cases hchange : op.change.apply element with
        | error cause => simp [Except.map, hlock, helement, hchange]
        | ok changed => simp [Except.map, Result.ofOutcomes, placed_append, hlock, helement, hchange]

/-- After every turn the result is that of the outcomes so far. -/
theorem turns_eq (ops : List Op) :
    turns locks (.ofOutcomes (withSlides deck slides) done) done.length ops =
      (applyOps locks slides ops).map fun (last, outcomes) =>
        .ofOutcomes (withSlides deck last) (done ++ ops.zip outcomes) := by
  induction ops generalizing slides done with
  | nil => simp [turns, applyOps, Except.map]
  | cons op rest ih =>
    rw [turns, turn_eq, applyOps]
    cases applyOp locks slides op with
    | error cause => rfl
    | ok step =>
      obtain ⟨next, outcome⟩ := step
      have hlength : done.length + 1 = (done ++ [(op, outcome)]).length := by simp
      simp only [Except.map, hlength, ih]
      cases applyOps locks next rest with
      | error cause => rfl
      | ok run => simp

end

/-! ### Whole decks -/

/-- The deck that a document is, with the slides of its copy. -/
theorem ofValue_ok_iff {document : Value} {start : Json.Members} : ofValue document = .ok start ↔
    ∃ deck, document.toJson = .ok (.object deck) ∧ start = withSlides deck (slides deck) := by
  unfold ofValue
  cases document.toJson with
  | error cause => simp
  | ok copy => cases copy <;> simp [eq_comm]

/-- Applying operations to a document is a run on the slides of its copy. -/
theorem apply_of_toJson {document : Value} {deck : Json.Members} (hdeck : document.toJson = .ok (.object deck))
    (locks : Value) (ops : List Op) : apply document locks ops =
      ((applyOps locks (slides deck) ops).map fun (last, outcomes) =>
        Result.ofOutcomes (withSlides deck last) (ops.zip outcomes)).mapError .notJson := by
  have hstart := ofValue_ok_iff.mpr ⟨deck, hdeck, rfl⟩
  -- Before the first operation there are no outcomes.
  have hturns := @turns_eq locks deck (slides deck) [] ops
  rw [apply, hstart]
  exact congrArg (Except.mapError Fault.notJson) hturns

theorem apply_eq_ok {document locks : Value} {ops : List Op} {result : Result} :
    apply document locks ops = .ok result ↔
      ∃ deck last outcomes, document.toJson = .ok (.object deck) ∧
        applyOps locks (slides deck) ops = .ok (last, outcomes) ∧
        result = .ofOutcomes (withSlides deck last) (ops.zip outcomes) := by
  constructor
  · intro h
    cases hvalue : ofValue document with
    | error fault =>
      rw [apply, hvalue] at h
      cases h
    | ok start =>
      obtain ⟨deck, hdeck, -⟩ := ofValue_ok_iff.mp hvalue
      rw [apply_of_toJson hdeck] at h
      cases hrun : applyOps locks (slides deck) ops with
      | error cause =>
        rw [hrun] at h
        cases h
      | ok run =>
        obtain ⟨last, outcomes⟩ := run
        rw [hrun] at h
        cases h
        exact ⟨deck, last, outcomes, hdeck, hrun, rfl⟩
  · rintro ⟨deck, last, outcomes, hdeck, hrun, rfl⟩
    rw [apply_of_toJson hdeck, hrun]
    rfl

end Deck
end DeckEdit
