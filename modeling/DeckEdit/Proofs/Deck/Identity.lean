import DeckEdit.Edit
import DeckEdit.Proofs.Deck.LastWrite
import DeckEdit.Proofs.Deck.Outline

/-! The ids of elements, by which all later operations address them. A style may hold the key `id`, and then
    it gives its element another id, maybe that of a neighbour; nothing else changes one. On a slide where
    no operation does so the ids stay as they are, and every id finds the element that it found before. -/

namespace DeckEdit
namespace Deck
variable {entries changed slides last : List Json} {slide : Json.Members} {p : Nat}

/-! ### Ids -/

/-- The values under `id` of the entries of a list; none for an entry that has no such value. -/
def ids (entries : List Json) : List (Option Json) :=
  entries.map fun v => v.members?.bind (Entries.get? idKey)

/-- No two entries of a list have the same id. -/
def DistinctIds (entries : List Json) : Prop :=
  ∀ (i j : Nat) (id : Json), (ids entries)[i]? = some (some id) → (ids entries)[j]? = some (some id) → i = j

theorem valueAt?_id_eq (hslide : objectAt? slides p = some slide) (q : Nat) :
    valueAt? slides p q idKey = ((ids (elements slide))[q]?).join := by
  rw [valueAt?, entryAt?, hslide, Option.bind_some, ids, List.getElem?_map]
  cases (elements slide)[q]? <;> rfl

/-- The value is that text. -/
def isText (t : Text) : Option Json → Bool
  | some (.text s) => s == t
  | _ => false

theorem members?_id?_eq_isText (id : Text) (v : Json) :
    (v.members?.map id? == some (some id)) = isText id (v.members?.bind (Entries.get? idKey)) := by
  cases v with
  | object members =>
    simp only [Json.members?, Option.map_some, Option.bind_some, id?]
    cases Entries.get? idKey members with
    | none => rfl
    | some found => cases found <;> rfl
  | _ => rfl

/-- What an id finds depends on the ids of the list alone. -/
theorem map_fst_findId?_eq_ids (id : Text) (entries : List Json) :
    (findId? id entries).map Prod.fst = (ids entries).findIdx? (isText id) := by
  rw [map_fst_findId?, outline, ids, List.findIdx?_map, List.findIdx?_map]
  exact congrArg (List.findIdx? · entries) (funext (members?_id?_eq_isText id))

/-- The entries of a list have kept their ids: none has become that of a neighbour, and each finds the entry
    that it found before. -/
structure IdentityKept (entries changed : List Json) : Prop where
  ids : ids changed = ids entries
  distinct : DistinctIds entries → DistinctIds changed
  found : ∀ id, (findId? id changed).map Prod.fst = (findId? id entries).map Prod.fst

theorem identityKept_of_ids (h : ids changed = ids entries) : IdentityKept entries changed where
  ids := h
  distinct hdistinct := by
    unfold DistinctIds at hdistinct ⊢
    rwa [h]
  found id := by rw [map_fst_findId?_eq_ids, map_fst_findId?_eq_ids, h]

/-! ### Operations -/

/-- A slide is where it was, with as many elements. -/
theorem SlidesKept.exists_objectAt? (h : SlidesKept slides changed)
    (hslide : objectAt? slides p = some slide) : ∃ slide', objectAt? changed p = some slide' ∧
      (elements slide').length = (elements slide).length := by
  obtain ⟨hlt, hentry⟩ := List.getElem?_eq_some_iff.mp (objectAt?_eq_some.mp hslide)
  have hlt' : p < changed.length := h.length_eq ▸ hlt
  have hwithin := (List.forall₂_iff_get.mp h).2 p hlt hlt'
  simp only [List.get_eq_getElem, hentry] at hwithin
  generalize hchanged : changed[p] = w at hwithin
  have hat : changed[p]? = some w := by rw [List.getElem?_eq_getElem hlt', hchanged]
  cases hwithin with
  | same => exact ⟨slide, objectAt?_eq_some.mpr hat, rfl⟩
  | object hkept => exact ⟨_, objectAt?_eq_some.mpr hat, hkept.entries.length_eq.symm⟩

theorem lastWritten?_id_eq_none {found : List Hit}
    (h : ∀ hit ∈ found, hit.slide = p → ¬ hit.op.change.Renames) (q : Nat) :
    lastWritten? found p q idKey = none := by
  refine List.findSome?_eq_none_iff.mpr fun hit hhit => ?_
  unfold Hit.written?
  split
  · rename_i hplace
    exact Change.written?_id (h hit (List.mem_reverse.mp hhit) hplace.1.symm)
  · rfl

section
variable {locks : Value} {ops : List Op} {outcomes : List Outcome}

/-- After a run every element has the id that was written to it last, or else its own. -/
theorem exists_ids_of_applyOps (h : applyOps locks slides ops = .ok (last, outcomes))
    (hslide : objectAt? slides p = some slide) :
    ∃ slide', objectAt? last p = some slide' ∧ ids (elements slide') =
      (ids (elements slide)).mapIdx fun q id =>
        (lastWritten? (hits locks slides ops) p q idKey).or id := by
  obtain ⟨slide', hslide', hlength⟩ := (slidesKept_of_applyOps h).exists_objectAt? hslide
  refine ⟨slide', hslide', List.ext_getElem (by simp [ids, hlength]) fun q hq hq' => ?_⟩
  have hlt : q < (ids (elements slide)).length := by simpa using hq'
  have hvalue := valueAt?_of_applyOps h p q idKey
  rw [valueAt?_id_eq hslide, valueAt?_id_eq hslide', List.getElem?_eq_getElem hq,
    List.getElem?_eq_getElem hlt, Option.join_some, Option.join_some] at hvalue
  rw [hvalue, List.getElem_mapIdx]

/-- The elements of a slide keep their ids exactly if the last id written to each of them is its own. -/
theorem identityKept_iff (h : applyOps locks slides ops = .ok (last, outcomes)) {slide' : Json.Members}
    (hslide : objectAt? slides p = some slide) (hslide' : objectAt? last p = some slide') :
    IdentityKept (elements slide) (elements slide') ↔
      ∀ q id, lastWritten? (hits locks slides ops) p q idKey = some id →
        valueAt? slides p q idKey = some id := by
  constructor
  · intro hkept q id hwritten
    have hvalue := valueAt?_of_applyOps h p q idKey
    rwa [hwritten, Option.some_or, valueAt?_id_eq hslide', hkept.ids, ← valueAt?_id_eq hslide] at hvalue
  · intro hwritten
    obtain ⟨found, hfound, hids⟩ := exists_ids_of_applyOps h hslide
    obtain rfl : found = slide' := Option.some.inj (hfound.symm.trans hslide')
    refine identityKept_of_ids (hids.trans (List.ext_getElem (by simp) fun q hq hq' => ?_))
    rw [List.getElem_mapIdx]
    cases hlast : lastWritten? (hits locks slides ops) p q idKey with
    | none => rw [Option.none_or]
    | some id =>
      have hvalue := hwritten q id hlast
      rw [valueAt?_id_eq hslide, List.getElem?_eq_getElem hq', Option.join_some] at hvalue
      rw [Option.some_or, hvalue]

/-- The ids of a slide's elements after any operations: that of each element is the one that the last of the
    applied operations on it wrote that renames it, or else its own. So elements keep their ids, stay as
    distinct as they were and are found where they were exactly where no such last id differs from the
    element's own, in particular on every slide on which no applied operation renames an element. -/
theorem ids_follow_last_renames {document : Value} {result : Result}
    (h : apply document locks ops = .ok result) :
    ∃ deck, document.toJson = .ok (.object deck) ∧
      let found := hits locks (Deck.slides deck) ops
      found.map Hit.op = result.opsWith .applied ∧
      ∀ p slide, objectAt? (Deck.slides deck) p = some slide →
        ∃ slide', objectAt? (Deck.slides result.deck) p = some slide' ∧
          ids (elements slide') = ((ids (elements slide)).mapIdx fun q id =>
            (lastWritten? found p q idKey).or id) ∧
          (IdentityKept (elements slide) (elements slide') ↔ ∀ q id,
            lastWritten? found p q idKey = some id → valueAt? (Deck.slides deck) p q idKey = some id) ∧
          ((∀ hit ∈ found, hit.slide = p → ¬ hit.op.change.Renames) →
            IdentityKept (elements slide) (elements slide')) := by
  obtain ⟨deck, last, outcomes, hdeck, hrun, rfl⟩ := apply_eq_ok.mp h
  have hops := (Result.opsWith_ofOutcomes (withSlides deck last) (ops.zip outcomes) .applied).symm
  refine ⟨deck, hdeck, (map_op_hits hrun).trans hops, fun p slide hslide => ?_⟩
  obtain ⟨slide', hslide', hids⟩ := exists_ids_of_applyOps hrun hslide
  have hiff := identityKept_iff hrun hslide hslide'
  rw [Result.deck_ofOutcomes, slides_withSlides]
  refine ⟨slide', hslide', hids, hiff, fun hkeep => hiff.mpr fun q id hwritten => ?_⟩
  rw [lastWritten?_id_eq_none hkeep] at hwritten
  cases hwritten

end

/-! ### Renames -/

theorem distinctIds_pair {a b : Text} (hab : a ≠ b) (h : ids entries = [some (.text a), some (.text b)]) :
    DistinctIds entries := by
  intro i j id hi hj
  rw [h] at hi hj
  -- equal positions agree, one in front of the other would make the two texts equal
  match i, j with
  | 0, 0 | 1, 1 => rfl
  | 0, 1 =>
    cases hi
    cases hj
    exact absurd rfl hab
  | 1, 0 =>
    cases hi
    cases hj
    exact absurd rfl hab
  | i + 2, _ => cases hi
  | _, j + 2 => cases hj

/-- Two slides with two elements each. -/
def namedDeck : Json.Members :=
  let elements : Json := .array [.object [(idKey, .text "a")], .object [(idKey, .text "b")]]
  [(slidesKey, .array [.object [(elementsKey, elements)], .object [(elementsKey, elements)]])]

/-- The first element of the first slide gets two other ids, one after the other, and is moved under the
    second of them; on the second slide an element is moved. -/
def renamingOps : List Op :=
  [⟨"a", none, some 1, .setStyle [(idKey, .text "c")]⟩,
    ⟨"c", none, some 1, .setStyle [(idKey, .text "d")]⟩,
    ⟨"d", none, some 1, .move (some (.int 1)) none⟩,
    ⟨"b", none, some 2, .move (some (.int 1)) none⟩]

theorem ids_follow_last_renames_twice : ∃ result slide slide',
    apply (.ofJson (.object namedDeck)) .null renamingOps = .ok result ∧
      objectAt? (Deck.slides result.deck) 0 = some slide ∧
      ids (elements slide) = [some (.text "d"), some (.text "b")] ∧
      objectAt? (Deck.slides result.deck) 1 = some slide' ∧
      ids (elements slide') = [some (.text "a"), some (.text "b")] ∧ DistinctIds (elements slide') := by
  have hrun : apply (.ofJson (.object namedDeck)) .null renamingOps = .ok _ := rfl
  have hcopy : (Value.ofJson (.object namedDeck)).toJson = .ok (.object namedDeck) := rfl
  obtain ⟨deck, hdeck, -, hids⟩ := ids_follow_last_renames hrun
  obtain rfl : deck = namedDeck := by simpa using hdeck.symm.trans hcopy
  obtain ⟨first, hfirst, hrenamed, -, -⟩ := hids 0 _ rfl
  obtain ⟨second, hsecond, -, -, hkept⟩ := hids 1 _ rfl
  have hkept := hkept (by decide)
  refine ⟨_, first, second, hrun, hfirst, hrenamed, hsecond, hkept.ids, hkept.distinct ?_⟩
  exact distinctIds_pair (by decide) rfl

/-- A patch that is accepted and gives an element the id of its neighbour. -/
def renamingPatch : Value :=
  .dict [(.text "ops", .list [.dict [(.text "op", .text "set_style"), (.text "slideIndex", .int 1),
    (.text "objectId", .text "a"), (.text "style", .dict [(.text "id", .text "b")])]])]

/-- Ids that were distinct no longer are, and the first id finds nothing. -/
theorem renamed_to_neighbour : ∃ result slide slide',
    Edit.applyCandidate (.ofJson (.object namedDeck)) .null renamingPatch = .ok result ∧
      objectAt? (Deck.slides namedDeck) 0 = some slide ∧
      objectAt? (Deck.slides result.deck) 0 = some slide' ∧
      ids (elements slide) = [some (.text "a"), some (.text "b")] ∧
      ids (elements slide') = [some (.text "b"), some (.text "b")] ∧
      ids (elements slide') ≠ ids (elements slide) ∧ ¬ DistinctIds (elements slide') ∧
      findId? "a" (elements slide') = none := by
  have hrun : Edit.applyCandidate (.ofJson (.object namedDeck)) .null renamingPatch = .ok _ := rfl
  refine ⟨_, _, _, hrun, rfl, rfl, rfl, rfl, ?_, fun hdistinct => ?_, rfl⟩
  · intro h
    cases (List.cons.inj h).1
  · have := hdistinct 0 1 (.text "b") rfl rfl
    cases this

end Deck
end DeckEdit
