import DeckEdit.Lock

/-! When an element is locked: some encoding marks it under one of the keys of its slide. So a slide
    that is known under more keys has no fewer locks. What it takes for data to mark an element is told
    encoding by encoding. -/

namespace DeckEdit
namespace Lock

theorem Encoding.mem_all (encoding : Encoding) : encoding ∈ Encoding.all := by
  cases encoding <;> decide

theorem isLocked_iff {locks : Value} {objectId : Text} {slideId : Option Text} {slideIndex : Option Int} :
    isLocked locks objectId slideId slideIndex = true ↔
      objectId ≠ [] ∧ ∃ slideKey ∈ slideKeys slideId slideIndex, ∃ encoding,
        marks locks objectId slideKey encoding = true := by
  unfold isLocked matching?
  by_cases h : objectId = []
  · simp [h]
  · have hne : objectId.isEmpty = false := by simpa using h
    simp only [hne, Bool.false_eq_true, ite_false, List.find?_isSome, List.any_eq_true, ne_eq, h,
      not_false_eq_true, true_and]
    constructor
    · rintro ⟨encoding, -, slideKey, hkey, hmarks⟩
      exact ⟨slideKey, hkey, encoding, hmarks⟩
    · rintro ⟨slideKey, hkey, encoding, hmarks⟩
      exact ⟨encoding, Encoding.mem_all encoding, slideKey, hkey, hmarks⟩

/-- More slide keys never unlock. -/
theorem isLocked_mono {locks : Value} {objectId : Text} {id id' : Option Text} {index index' : Option Int}
    (hkeys : slideKeys id index ⊆ slideKeys id' index') (h : isLocked locks objectId id index = true) :
    isLocked locks objectId id' index' = true := by
  obtain ⟨hne, slideKey, hkey, hmarks⟩ := isLocked_iff.mp h
  exact isLocked_iff.mpr ⟨hne, slideKey, hkeys hkey, hmarks⟩

theorem slideKeys_of_id_subset (slideId : Option Text) (slideIndex : Option Int) :
    slideKeys slideId none ⊆ slideKeys slideId slideIndex := by
  intro slideKey hkey
  exact List.mem_append_left _ (by simpa [slideKeys] using hkey)

/-- A lock under the id of a slide holds whatever index is given beside it. -/
theorem isLocked_of_id {locks : Value} {objectId : Text} {slideId : Option Text}
    (h : isLocked locks objectId slideId none = true) (slideIndex : Option Int) :
    isLocked locks objectId slideId slideIndex = true :=
  isLocked_mono (slideKeys_of_id_subset slideId slideIndex) h

theorem slideKeys_eq_append (slideId : Option Text) (slideIndex : Option Int) :
    slideKeys slideId slideIndex = slideKeys slideId none ++ slideKeys none slideIndex := by
  simp [slideKeys]

/-- The id and the index of a slide lock an element apart from one another. -/
theorem isLocked_eq_or (locks : Value) (objectId : Text) (slideId : Option Text) (slideIndex : Option Int) :
    isLocked locks objectId slideId slideIndex =
      (isLocked locks objectId slideId none || isLocked locks objectId none slideIndex) := by
  rw [Bool.eq_iff_iff, Bool.or_eq_true, isLocked_iff, isLocked_iff, isLocked_iff, slideKeys_eq_append slideId]
  simp only [List.mem_append, or_and_right, exists_or, and_or_left]

/-! ### Marks -/

theorem flagged_iff {root : Value} {objectId slideKey : Text} : flagged root objectId slideKey = true ↔
    ∃ elements flag, root.get? slideKey = some elements ∧ elements.get? objectId = some flag ∧
      flag.isTruthy = true := by
  unfold flagged
  cases hslide : root.get? slideKey with
  | none => simp
  | some elements => cases hflag : elements.get? objectId <;> simp [hflag]

theorem marks_dotted_iff {locks : Value} {objectId slideKey : Text} :
    marks locks objectId slideKey .dotted = true ↔
      ∃ flag, locks.get? (dottedKey slideKey objectId) = some flag ∧ flag.isTruthy = true := by
  rw [marks]
  cases locks.get? (dottedKey slideKey objectId) <;> simp

theorem marks_wrapped_iff {locks : Value} {objectId slideKey : Text} :
    marks locks objectId slideKey .wrapped = true ↔
      ∃ container, locks.get? containerKey = some container ∧
        flagged container objectId slideKey = true := by
  rw [marks]
  cases locks.get? containerKey <;> simp

/-- What it takes for lock data to mark an element, encoding by encoding. -/
theorem exists_marks_iff {locks : Value} {objectId slideKey : Text} :
    (∃ encoding, marks locks objectId slideKey encoding = true) ↔
      listed locks objectId slideKey = true ∨ flagged locks objectId slideKey = true ∨
        (∃ flag, locks.get? (dottedKey slideKey objectId) = some flag ∧ flag.isTruthy = true) ∨
        ∃ container, locks.get? containerKey = some container ∧
          flagged container objectId slideKey = true := by
  rw [← marks_dotted_iff, ← marks_wrapped_iff]
  constructor
  · rintro ⟨encoding, hmarks⟩
    cases encoding with
    | tokenList => exact Or.inl hmarks
    | nested => exact Or.inr (Or.inl hmarks)
    | dotted => exact Or.inr (Or.inr (Or.inl hmarks))
    | wrapped => exact Or.inr (Or.inr (Or.inr hmarks))
  · rintro (hmarks | hmarks | hmarks | hmarks)
    · exact ⟨.tokenList, hmarks⟩
    · exact ⟨.nested, hmarks⟩
    · exact ⟨.dotted, hmarks⟩
    · exact ⟨.wrapped, hmarks⟩

/-! ### Slide keys, tokens and dotted keys -/

theorem mem_slideKeys {slideKey : Text} {slideId : Option Text} {slideIndex : Option Int} :
    slideKey ∈ slideKeys slideId slideIndex ↔
      (slideId = some slideKey ∧ slideKey ≠ []) ∨
        ∃ index, slideIndex = some index ∧ Text.ofInt index = slideKey := by
  simp [slideKeys]

theorem token_eq (slideKey objectId : Text) :
    token slideKey objectId = slideKey ++ CodePoint.ofChar ':' :: objectId := by
  rw [token, List.append_assoc]
  rfl

theorem dottedKey_eq (slideKey objectId : Text) :
    dottedKey slideKey objectId = slideKey ++ CodePoint.ofChar '.' :: objectId := by
  rw [dottedKey, List.append_assoc]
  rfl

end Lock
end DeckEdit
