import DeckEdit.Proofs.Deck.Layout
import DeckEdit.Proofs.Deck.Overwrite
import DeckEdit.Proofs.Deck.Reach
import Mathlib.Data.List.Sort

/-! Operations in another order. Without renames an operation finds its element and ends as it would alone,
    wherever it stands in a batch; and what an element becomes depends only on the operations that find it, in
    their order. So two operations can change places unless they name the same element of the same slide. -/

namespace DeckEdit

/-! ### Lists in another order -/

/-- The positions of a list in another order, in which those of related entries stay in theirs. -/
structure Reorders {α : Type} (related : α → α → Prop) (xs : List α) (order : List (Fin xs.length)) :
    Prop where
  perm : order.Perm (List.finRange xs.length)
  kept : order.Pairwise fun i j => related (xs.get i) (xs.get j) → i < j

/-- Entries that are all related to each other come in the same order as before. -/
theorem Reorders.filter_map_get {α : Type} {related : α → α → Prop} {xs : List α}
    {order : List (Fin xs.length)} (h : Reorders related xs order) {p : α → Bool}
    (hp : ∀ a b, p a = true → p b = true → related a b) :
    (order.map xs.get).filter p = xs.filter p := by
  have hincreasing : (order.filter (p ∘ xs.get)).Pairwise (· < ·) := by
    refine (h.kept.filter _).imp_of_mem fun {i j} hi hj hkept => hkept (hp _ _ ?_ ?_)
    · exact (List.mem_filter.mp hi).2
    · exact (List.mem_filter.mp hj).2
  have hrange : ((List.finRange xs.length).filter (p ∘ xs.get)).Pairwise (· < ·) :=
    (List.sortedLT_finRange xs.length).pairwise.filter _
  have hsame : order.filter (p ∘ xs.get) = (List.finRange xs.length).filter (p ∘ xs.get) :=
    (h.perm.filter _).eq_of_pairwise (fun _ _ _ _ hij hji => absurd hji (Fin.lt_asymm hij))
      hincreasing hrange
  calc
    (order.map xs.get).filter p
      = (order.filter (p ∘ xs.get)).map xs.get := List.filter_map
    _ = ((List.finRange xs.length).filter (p ∘ xs.get)).map xs.get := by rw [hsame]
    _ = ((List.finRange xs.length).map xs.get).filter p := List.filter_map.symm
    _ = xs.filter p := by rw [List.map_get_finRange]

namespace Deck
variable {locks : Value} {slides last : List Json} {op : Op} {ops : List Op} {outcomes : List Outcome}

/-! ### Outcomes -/

/-- A batch that renames no element ends as each of its operations would end alone. -/
theorem exists_applyOps_iff (hkeep : ∀ op ∈ ops, ¬ op.change.Renames) :
    (∃ last, applyOps locks slides ops = .ok (last, outcomes)) ↔
      List.Forall₂ (fun op outcome => ∃ next, Step locks slides op next outcome) ops outcomes := by
  induction ops generalizing slides outcomes with
  | nil =>
    rw [List.forall₂_nil_left_iff]
    constructor
    · rintro ⟨last, h⟩
      cases h
      rfl
    · rintro rfl
      exact ⟨slides, rfl⟩
  | cons op rest ih =>
    obtain ⟨hop, hlater⟩ := List.forall_mem_cons.mp hkeep
    rw [List.forall₂_cons_left_iff]
    constructor
    · rintro ⟨last, h⟩
      obtain ⟨next, outcome, later, hstep, hrest, rfl⟩ := applyOps_cons_eq_ok.mp h
      obtain ⟨last', hrest'⟩ := exists_applyOps_of_layout hrest hlater (hstep.layout hop)
      exact ⟨outcome, later, ⟨next, hstep⟩, (ih hlater).mp ⟨last', hrest'⟩, rfl⟩
    · rintro ⟨outcome, later, ⟨next, hstep⟩, hrest, rfl⟩
      obtain ⟨last, hlast⟩ := (ih hlater).mpr hrest
      obtain ⟨last', hlast'⟩ := exists_applyOps_of_layout hlast hlater (hstep.layout hop).symm
      exact ⟨last', applyOps_cons_eq_ok.mpr ⟨next, outcome, later, hstep, hlast', rfl⟩⟩

/-! ### Writes -/

/-- The operation finds the element at two positions. -/
def findsAt (locks : Value) (slides : List Json) (p q : Nat) (op : Op) : Bool :=
  (hit? locks slides op).any fun hit => hit.slide == p && hit.position == q

/-- Only what operations write that find the element counts for it. -/
theorem writesAt_filterMap_hit? (p q : Nat) :
    writesAt (ops.filterMap (hit? locks slides)) p q =
      writesAt ((ops.filter (findsAt locks slides p q)).filterMap (hit? locks slides)) p q := by
  induction ops with
  | nil => rfl
  | cons op rest ih =>
    cases hhit : hit? locks slides op with
    | none =>
      have hfinds : findsAt locks slides p q op = false := by simp [findsAt, hhit]
      rw [List.filterMap_cons_none hhit, List.filter_cons_of_neg (by simp [hfinds]), ih]
    | some hit =>
      rw [List.filterMap_cons_some hhit, writesAt_cons, ih]
      by_cases hplace : p = hit.slide ∧ q = hit.position
      · have hfinds : findsAt locks slides p q op = true := by
          simp [findsAt, hhit, hplace.1, hplace.2]
        rw [List.filter_cons_of_pos hfinds, List.filterMap_cons_some hhit, writesAt_cons]
      · have hfinds : findsAt locks slides p q op = false := by
          refine Bool.eq_false_iff.mpr fun htrue => hplace ?_
          obtain ⟨rfl, rfl⟩ : hit.slide = p ∧ hit.position = q := by simpa [findsAt, hhit] using htrue
          exact ⟨rfl, rfl⟩
        rw [List.filter_cons_of_neg (by simp [hfinds]), Hit.writesAt, if_neg hplace, List.nil_append]

/-! ### Targets -/

/-- Two operations find the same slide, and name the same element of it. -/
def SameTarget (slides : List Json) (a b : Op) : Prop :=
  (findSlide? slides a).isSome ∧
    (findSlide? slides a).map Prod.fst = (findSlide? slides b).map Prod.fst ∧ a.objectId = b.objectId

instance (slides : List Json) (a b : Op) : Decidable (SameTarget slides a b) :=
  inferInstanceAs (Decidable (_ ∧ _ ∧ _))

theorem entryAt?_of_hit? {hit : Hit} (h : hit? locks slides op = some hit) :
    ∃ element, entryAt? slides hit.slide hit.position = some (.object element) ∧
      id? element = some op.objectId := by
  unfold hit? at h
  split at h
  · cases h
  · rename_i p slide hslide
    split at h
    · cases h
    · obtain ⟨⟨q, element⟩, helement, rfl⟩ := Option.map_eq_some_iff.mp h
      have hfirst := findElement?_eq_some.mp helement
      exact ⟨element, by simp [entryAt?, objectAt?_of_findSlide? hslide, hfirst.entry], hfirst.named⟩

/-- Operations that find the same element name it alike, since it has one id. -/
theorem sameTarget_of_findsAt {p q : Nat} {a b : Op} (ha : findsAt locks slides p q a = true)
    (hb : findsAt locks slides p q b = true) : SameTarget slides a b := by
  have hfound {op : Op} (h : findsAt locks slides p q op = true) :
      (findSlide? slides op).map Prod.fst = some p ∧
        ∃ element, entryAt? slides p q = some (.object element) ∧ id? element = some op.objectId := by
    obtain ⟨hit, hhit, hplace⟩ := (Option.any_eq_true _ _).mp h
    obtain ⟨rfl, rfl⟩ : hit.slide = p ∧ hit.position = q := by simpa using hplace
    exact ⟨(reaches_of_hit? hhit).2.slide, entryAt?_of_hit? hhit⟩
  obtain ⟨haslide, element, hentry, haid⟩ := hfound ha
  obtain ⟨hbslide, element', hentry', hbid⟩ := hfound hb
  obtain rfl : element = element' := by simpa using hentry.symm.trans hentry'
  refine ⟨?_, haslide.trans hbslide.symm, Option.some.inj (haid.symm.trans hbid)⟩
  rw [← Option.isSome_map, haslide]
  rfl

/-! ### Batches -/

/-- A run without renames in another order leaves the same slides, and each operation ends as before. -/
theorem applyOps_reordered {order : List (Fin ops.length)}
    (h : applyOps locks slides ops = .ok (last, outcomes)) (hkeep : ∀ op ∈ ops, ¬ op.change.Renames)
    (horder : Reorders (SameTarget slides) ops order) :
    applyOps locks slides (order.map ops.get) =
      .ok (last, order.map fun i => outcomes.get (i.cast (length_of_applyOps h).symm)) := by
  have hkeep' : ∀ op ∈ order.map ops.get, ¬ op.change.Renames := by
    intro op hop
    obtain ⟨i, -, rfl⟩ := List.mem_map.mp hop
    exact hkeep _ (List.get_mem ops i)
  have halone := (exists_applyOps_iff hkeep).mp ⟨last, h⟩
  have halone' : List.Forall₂ (fun op outcome => ∃ next, Step locks slides op next outcome)
      (order.map ops.get) (order.map fun i => outcomes.get (i.cast (length_of_applyOps h).symm)) := by
    rw [List.forall₂_map_left_iff, List.forall₂_map_right_iff, List.forall₂_same]
    exact fun i _ => halone.get i.isLt _
  obtain ⟨last', hrun⟩ := (exists_applyOps_iff hkeep').mpr halone'
  have hwrites (p q : Nat) : writesAt (hits locks slides (order.map ops.get)) p q =
      writesAt (hits locks slides ops) p q := by
    rw [hits_eq_filterMap hrun hkeep', hits_eq_filterMap h hkeep, writesAt_filterMap_hit?,
      horder.filter_map_get fun _ _ => sameTarget_of_findsAt, ← writesAt_filterMap_hit?]
  have hlast : last' = last :=
    (slidesKept_of_applyOps hrun).ext (slidesKept_of_applyOps h) fun p q => by
      rw [entryAt?_of_applyOps hrun, hwrites, entryAt?_of_applyOps h]
  rw [hrun, hlast]

/-- Operations of a batch that renames no element can be put in another order, as long as those with the same
    target stay in theirs: the deck is the same, with its keys in the same order, and every operation ends as
    before. -/
theorem apply_reordered {document : Value} {deck : Json.Members} {result : Result}
    {order : List (Fin ops.length)} (h : apply document locks ops = .ok result)
    (hdeck : document.toJson = .ok (.object deck)) (hkeep : ∀ op ∈ ops, ¬ op.change.Renames)
    (horder : Reorders (SameTarget (Deck.slides deck)) ops order) :
    ∃ other, apply document locks (order.map ops.get) = .ok other ∧ other.deck = result.deck ∧
      ∀ (k : Nat) (i : Fin ops.length), order[k]? = some i →
        other.outcomes[k]? = result.outcomes[i.val]? := by
  obtain ⟨deck', last, outcomes, hdeck', hrun, rfl⟩ := apply_eq_ok.mp h
  obtain rfl : deck' = deck := by simpa using hdeck'.symm.trans hdeck
  have hother := applyOps_reordered hrun hkeep horder
  refine ⟨_, apply_eq_ok.mpr ⟨deck', last, _, hdeck, hother, rfl⟩, rfl, fun k i hk => ?_⟩
  have hlength : i.val < outcomes.length := by
    rw [length_of_applyOps hrun]
    exact i.isLt
  simp [List.getElem?_zip_eq_some, hk, hlength]

/-- Operations on `sharedDeck` by id and by index: three on the first of two elements with the same id, one on
    a neighbour, one on a locked element that there is not, and one on no slide. -/
def interleavedOps : List Op :=
  [⟨"a", some "s", none, .setStyle [("x", .int 5), ("fill", .dict [(.text "hue", .list [.null])])]⟩,
    ⟨"b", none, some 1, .setText "Last"⟩,
    ⟨"a", none, some 1, .setText "New"⟩,
    ⟨"c", some "t", some 1, .setText "Lost"⟩,
    ⟨"a", some "t", some 1, .move (some (.int 7)) none⟩,
    ⟨"b", some "t", none, .setText "Lost"⟩]

/-- Of the operations on the first element each keeps its turn. -/
def interleavedOrder : List (Fin interleavedOps.length) :=
  [⟨3, by decide⟩, ⟨5, by decide⟩, ⟨0, by decide⟩, ⟨2, by decide⟩, ⟨1, by decide⟩, ⟨4, by decide⟩]

theorem apply_reordered_interleaved :
    let locks : Value := .list [.text "1:c"]
    ∃ result other, apply (.ofJson (.object sharedDeck)) locks interleavedOps = .ok result ∧
      apply (.ofJson (.object sharedDeck)) locks (interleavedOrder.map interleavedOps.get) = .ok other ∧
      result.outcomes.map (·.2) = [.applied, .applied, .applied, .locked, .applied, .missing] ∧
      other.outcomes[0]? = result.outcomes[3]? ∧ other.deck = result.deck ∧
      entryAt? (Deck.slides other.deck) 0 0 = some (.object [(idKey, .text "a"), ("x", .int 7),
        ("fill", .object [("hue", .array [.null])]), ("text", .text "New")]) := by
  intro locks
  have hrun : apply (.ofJson (.object sharedDeck)) locks interleavedOps = .ok _ := rfl
  have hcopy : (Value.ofJson (.object sharedDeck)).toJson = .ok (.object sharedDeck) := rfl
  have hkeep : ∀ op ∈ interleavedOps, ¬ op.change.Renames := by decide
  have horder : Reorders (SameTarget (Deck.slides sharedDeck)) interleavedOps interleavedOrder :=
    ⟨by decide, by decide⟩
  obtain ⟨other, hother, hdeck, houtcomes⟩ := apply_reordered hrun hcopy hkeep horder
  exact ⟨_, other, hrun, hother, rfl, houtcomes 0 _ rfl, hdeck, by rw [hdeck]; rfl⟩

end Deck
end DeckEdit
