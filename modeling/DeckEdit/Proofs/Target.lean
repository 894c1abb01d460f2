import DeckEdit.Proofs.Copy
import DeckEdit.Proofs.Deck.LockSafety
import DeckEdit.Target

/-! Target keys and the slides that they name. Locked targets are looked up in the document as it was handed
    in, and operations are checked on its copy; the two see the same slide ids. -/

namespace DeckEdit
namespace Target
variable {document locks : Value} {deck : Json.Members} {key objectId id : Text} {index : Int}

/-- A key is read at its first colon. -/
theorem parse?_eq_some : parse? key = some (index, objectId) ↔
    ∃ numeral, key.splitAt? (CodePoint.ofChar ':') = some (numeral, objectId) ∧ objectId ≠ [] ∧
      Numeral.integer? numeral = some index ∧ 1 ≤ index := by
  rw [parse?]
  constructor
  · intro h
    split at h
    · cases h
    · rename_i numeral rest hsplit
      split_ifs at h with hrest
      split at h
      · rename_i found hread
        split_ifs at h with hindex
        cases h
        exact ⟨numeral, hsplit, by simpa using hrest, hread, Int.not_lt.mp hindex⟩
      · cases h
  · rintro ⟨numeral, hsplit, hne, hread, hindex⟩
    have hrest : objectId.isEmpty = false := by simpa using hne
    simp only [hsplit, hrest, hread, Bool.false_eq_true, if_false, if_neg (Int.not_lt.mpr hindex)]

theorem one_le_of_parse? (h : parse? key = some (index, objectId)) : 1 ≤ index := by
  obtain ⟨numeral, -, -, -, hindex⟩ := parse?_eq_some.mp h
  exact hindex

theorem id?_of_toJson {v : Value} {copy : Json} (h : v.toJson = .ok copy) :
    (v.get? Deck.idKey).bind Value.text? = copy.members?.bind Deck.id? := by
  refine Option.ext fun t => ?_
  simp only [Option.bind_eq_some_iff, Deck.id?_eq_some]
  constructor
  · rintro ⟨part, hpart, htext⟩
    obtain ⟨members, found, rfl, hfound, hcopy⟩ := Value.exists_get?_of_toJson h hpart
    obtain rfl := (Value.text?_of_toJson hcopy).mp htext
    exact ⟨members, rfl, hfound⟩
  · rintro ⟨members, hmembers, hfound⟩
    have hmap := Value.map_toJson_get?_of_toJson h Deck.idKey
    rw [hmembers, Option.bind_some, hfound, Option.map_some] at hmap
    obtain ⟨part, hpart, hcopy⟩ := Option.map_eq_some_iff.mp hmap
    exact ⟨part, hpart, (Value.text?_of_toJson hcopy).mpr rfl⟩

/-- The slides of a list have the ids of their copies. -/
theorem slideIdAt?_of_toJson {slides : List Value} {copies : List Json}
    (h : Value.toJsonItems slides = .ok copies) (p : Nat) :
    (slides[p]?.bind fun slide => (slide.get? Deck.idKey).bind Value.text?) = Deck.slideIdAt? copies p := by
  have hat := congrArg (·[p]?) (Value.map_toJson_items h)
  simp only [List.getElem?_map] at hat
  rw [Deck.slideIdAt?, Deck.objectAt?]
  cases hslide : slides[p]? with
  | none =>
    rw [hslide] at hat
    rw [Option.map_eq_none_iff.mp hat.symm]
    rfl
  | some slide =>
    rw [hslide, Option.map_some] at hat
    obtain ⟨copy, hcopy, heq⟩ := Option.map_eq_some_iff.mp hat.symm
    rw [hcopy]
    exact id?_of_toJson heq.symm

/-- The slides of a document stand in a tuple. -/
def TupleSlides (document : Value) : Prop :=
  ∃ slides, document.get? Deck.slidesKey = some (.tuple slides)

theorem slideId?_of_tuple (h : TupleSlides document) (index : Int) : slideId? document index = none := by
  obtain ⟨slides, hslides⟩ := h
  have hslides : document.get? "slides" = some (.tuple slides) := hslides
  rw [slideId?, hslides]

theorem not_tupleSlides_ofJson (v : Json) : ¬ TupleSlides (.ofJson v) := by
  rintro ⟨slides, hslides⟩
  rw [Value.get?_ofJson] at hslides
  obtain ⟨found, -, htuple⟩ := Option.map_eq_some_iff.mp hslides
  cases found <;> cases htuple

/-- Under each index a document has the slide id that its copy has, if its slides are not in a tuple. -/
theorem slideId?_eq (hdeck : document.toJson = .ok (.object deck)) (h : ¬ TupleSlides document) (index : Int) :
    slideId? document index =
      if 1 ≤ index then Deck.slideIdAt? (Deck.slides deck) (index.toNat - 1) else none := by
  have hmap : (document.get? Deck.slidesKey).map Value.toJson = (Entries.get? Deck.slidesKey deck).map .ok :=
    Value.map_toJson_get?_of_toJson hdeck Deck.slidesKey
  have hnone : none = if 1 ≤ index then Deck.slideIdAt? [] (index.toNat - 1) else none := by
    split <;> rfl
  rw [slideId?, show document.get? "slides" = document.get? Deck.slidesKey from rfl]
  cases hslides : document.get? Deck.slidesKey with
  | none =>
    rw [hslides] at hmap
    rw [Deck.slides, Option.map_eq_none_iff.mp hmap.symm]
    exact hnone
  | some v =>
    obtain ⟨members, found, hmembers, hfound, hcopy⟩ := Value.exists_get?_of_toJson hdeck hslides
    obtain rfl : deck = members := Json.object.inj hmembers
    cases v with
    | list slides =>
      obtain ⟨copies, hcopies, rfl⟩ := Value.toJson_list_eq_ok.mp hcopy
      rw [Deck.slides, hfound]
      exact ite_congr rfl (fun _ => slideIdAt?_of_toJson hcopies _) fun _ => rfl
    | tuple slides => exact absurd ⟨slides, hslides⟩ h
    | dict entries =>
      obtain ⟨members, -, rfl⟩ := Value.toJson_dict_eq_ok.mp hcopy
      rw [Deck.slides, hfound]
      exact hnone
    | bytes b | unknown => cases hcopy
    | _ =>
      cases hcopy
      rw [Deck.slides, hfound]
      exact hnone

/-- A slide id that the document has is that of the slide in the copy. -/
theorem slideIdAt?_of_slideId? {p : Nat} (hdeck : document.toJson = .ok (.object deck))
    (h : slideId? document (p + 1) = some id) : Deck.slideIdAt? (Deck.slides deck) p = some id := by
  have hlist : ¬ TupleSlides document := by
    intro htuple
    rw [slideId?_of_tuple htuple] at h
    cases h
  rwa [slideId?_eq hdeck hlist, if_pos (by omega), show ((p : Int) + 1).toNat - 1 = p by omega] at h

/-- A target that is locked in the document is locked in its copy, under the id and the index of its slide. -/
theorem isLocked_of_isLocked {p : Nat} (hdeck : document.toJson = .ok (.object deck))
    (hparse : parse? key = some ((p : Int) + 1, objectId))
    (h : isLocked locks (slideId? document) key = true) :
    Lock.isLocked locks objectId (Deck.slideIdAt? (Deck.slides deck) p) (some (p + 1)) = true := by
  rw [isLocked, hparse] at h
  dsimp only at h
  refine Lock.isLocked_mono ?_ h
  cases hid : slideId? document (p + 1) with
  | none => exact List.subset_append_right _ _
  | some id =>
    rw [slideIdAt?_of_slideId? hdeck hid]
    exact List.Subset.refl _

theorem exists_parse?_of_isLocked {idOf : Int → Option Text} (h : isLocked locks idOf key = true) :
    ∃ (p : Nat) (objectId : Text), parse? key = some ((p : Int) + 1, objectId) := by
  rw [isLocked] at h
  split at h
  · rename_i index objectId hparse
    have := one_le_of_parse? hparse
    exact ⟨(index - 1).toNat, objectId, by rw [hparse, show (((index - 1).toNat : Int) + 1) = index by omega]⟩
  · cases h

/-- Targets that can be looked up are texts, and the locked ones among them are found, in their order. -/
theorem locked_eq_ok {idOf : Int → Option Text} {targets : List Value} {found : List Text} :
    locked locks idOf targets = .ok found ↔
      ∃ keys : List Text, targets = keys.map Value.text ∧ found = keys.filter (isLocked locks idOf) := by
  induction targets generalizing found with
  | nil =>
    constructor
    · intro h
      cases h
      exact ⟨[], rfl, rfl⟩
    · rintro ⟨keys, hkeys, rfl⟩
      obtain rfl := List.map_eq_nil_iff.mp hkeys.symm
      rfl
  | cons v rest ih =>
    constructor
    · intro h
      cases v with
      | text key =>
        rw [locked] at h
        cases hrest : locked locks idOf rest with
        | error fault => simp [hrest, Except.map] at h
        | ok later =>
          obtain ⟨keys, rfl, rfl⟩ := ih.mp hrest
          rw [hrest] at h
          cases h
          exact ⟨key :: keys, rfl, by rw [List.filter_cons]⟩
      | _ => cases h
    · rintro ⟨keys, hkeys, rfl⟩
      obtain ⟨key, later, rfl, rfl, rfl⟩ := List.map_eq_cons_iff.mp hkeys.symm
      rw [locked, ih.mpr ⟨later, rfl, rfl⟩, List.filter_cons]
      rfl

end Target
end DeckEdit
