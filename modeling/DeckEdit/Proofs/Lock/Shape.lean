import DeckEdit.Proofs.Copy
import DeckEdit.Proofs.Lock

/-! What the shape of lock data suggests, against what it locks. The shape is told from keys and values alone,
    and the kinds of mapping are asked for in another order than when an element is looked up; but where an
    element is marked, the shape is that of the encoding that marks it, or of one that is asked for
    before. -/

namespace DeckEdit
namespace Lock
variable {locks found : Value} {objectId slideKey name : Text} {encoding : Encoding}

/-- The shape that goes with an encoding in which an element is marked. -/
structure Diagnoses (marked shape : Encoding) : Prop where
  tokenList : shape = .tokenList ↔ marked = .tokenList
  wrapped : marked = .wrapped → shape = .wrapped
  nested : marked = .nested → shape = .nested ∨ shape = .wrapped
  dotted : marked = .dotted → shape = .dotted ∨ shape = .nested ∨ shape = .wrapped

theorem exists_entries_of_get? (h : locks.get? name = some found) :
    ∃ entries, locks = .dict entries ∧ Entries.get? (.text name) entries = some found := by
  cases locks with
  | dict entries => exact ⟨entries, rfl, h⟩
  | _ => cases h

theorem isSome_entries?_of_get? (h : locks.get? name = some found) : locks.entries?.isSome = true := by
  obtain ⟨entries, rfl, -⟩ := exists_entries_of_get? h
  rfl

/-- A key that is a text with a full stop in it. -/
def hasPoint : Value.Key → Bool
  | .text t => t.contains (CodePoint.ofChar '.')
  | _ => false

theorem detect?_dict (entries : Entries Value.Key Value) : detect? (.dict entries) =
    if (((Value.dict entries).get? containerKey).bind Value.entries?).isSome then some .wrapped
    else if entries.any fun (_, v) => v.entries?.isSome then some .nested
    else if entries.any fun (k, _) => hasPoint k then some .dotted
    else none :=
  rfl

theorem detect?_of_container (h : locks.get? containerKey = some found)
    (hmapping : found.entries?.isSome = true) : detect? locks = some .wrapped := by
  obtain ⟨entries, rfl, -⟩ := exists_entries_of_get? h
  rw [detect?_dict, h, Option.bind_some, if_pos hmapping]

theorem detect?_of_mapping (h : locks.get? name = some found) (hmapping : found.entries?.isSome = true) :
    detect? locks = some .nested ∨ detect? locks = some .wrapped := by
  obtain ⟨entries, rfl, hget⟩ := exists_entries_of_get? h
  have hany : (entries.any fun (_, v) => v.entries?.isSome) = true :=
    List.any_eq_true.mpr ⟨_, Value.mem_of_get? hget, hmapping⟩
  rw [detect?_dict, if_pos hany]
  split
  · exact .inr rfl
  · exact .inl rfl

theorem detect?_of_dottedKey (h : locks.get? (dottedKey slideKey objectId) = some found) :
    detect? locks = some .dotted ∨ detect? locks = some .nested ∨ detect? locks = some .wrapped := by
  obtain ⟨entries, rfl, hget⟩ := exists_entries_of_get? h
  have hpoint : hasPoint (.text (dottedKey slideKey objectId)) = true := by
    simp [hasPoint, dottedKey_eq]
  have hany : (entries.any fun (k, _) => hasPoint k) = true :=
    List.any_eq_true.mpr ⟨_, Value.mem_of_get? hget, hpoint⟩
  rw [detect?_dict, if_pos hany]
  split
  · exact .inr (.inr rfl)
  · split
    · exact .inr (.inl rfl)
    · exact .inl rfl

/-- Where an encoding marks an element, the shape of the data goes with it. -/
theorem exists_diagnoses_of_marks (h : marks locks objectId slideKey encoding = true) :
    ∃ shape, detect? locks = some shape ∧ Diagnoses encoding shape := by
  cases encoding with
  | tokenList =>
    refine ⟨.tokenList, ?_, by decide, nofun, nofun, nofun⟩
    cases locks with
    | list items | tuple items => rfl
    | _ => cases h
  | nested =>
    obtain ⟨elements, flag, hslide, helement, -⟩ := flagged_iff.mp h
    rcases detect?_of_mapping hslide (isSome_entries?_of_get? helement) with hshape | hshape
    · exact ⟨_, hshape, by decide, nofun, fun _ => .inl rfl, nofun⟩
    · exact ⟨_, hshape, by decide, nofun, fun _ => .inr rfl, nofun⟩
  | dotted =>
    obtain ⟨flag, hflag, -⟩ := marks_dotted_iff.mp h
    rcases detect?_of_dottedKey hflag with hshape | hshape | hshape
    · exact ⟨_, hshape, by decide, nofun, nofun, fun _ => .inl rfl⟩
    · exact ⟨_, hshape, by decide, nofun, nofun, fun _ => .inr (.inl rfl)⟩
    · exact ⟨_, hshape, by decide, nofun, nofun, fun _ => .inr (.inr rfl)⟩
  | wrapped =>
    obtain ⟨container, hget, hflagged⟩ := marks_wrapped_iff.mp h
    obtain ⟨elements, flag, hslide, -⟩ := flagged_iff.mp hflagged
    exact ⟨_, detect?_of_container hget (isSome_entries?_of_get? hslide), by decide, fun _ => rfl, nofun, nofun⟩

/-- The first encoding that marks an element does mark it, under a key of its slide. -/
theorem exists_marks_of_matching? {slideId : Option Text} {slideIndex : Option Int}
    (h : matching? locks objectId slideId slideIndex = some encoding) :
    ∃ slideKey ∈ slideKeys slideId slideIndex, marks locks objectId slideKey encoding = true := by
  unfold matching? at h
  split at h
  · cases h
  · have hany := List.find?_some h
    exact List.any_eq_true.mp hany

/-- If an element is locked in some encoding, the shape of the lock data is told, and it goes with that
    encoding. So data whose shape is not told locks nothing. -/
theorem shape_told_of_locked (locks : Value) :
    (∀ {objectId : Text} {slideId : Option Text} {slideIndex : Option Int} {encoding : Encoding},
      matching? locks objectId slideId slideIndex = some encoding →
        ∃ shape, detect? locks = some shape ∧ Diagnoses encoding shape) ∧
    (detect? locks = none →
      ∀ objectId slideId slideIndex, isLocked locks objectId slideId slideIndex = false) := by
  have htold {objectId : Text} {slideId : Option Text} {slideIndex : Option Int} {encoding : Encoding}
      (h : matching? locks objectId slideId slideIndex = some encoding) :
      ∃ shape, detect? locks = some shape ∧ Diagnoses encoding shape := by
    obtain ⟨slideKey, -, hmarks⟩ := exists_marks_of_matching? h
    exact exists_diagnoses_of_marks hmarks
  refine ⟨htold, fun hnone objectId slideId slideIndex => ?_⟩
  rw [isLocked, Option.isSome_eq_false_iff, Option.isNone_iff_eq_none]
  cases hmatching : matching? locks objectId slideId slideIndex with
  | none => rfl
  | some encoding =>
    obtain ⟨shape, hshape, -⟩ := htold hmatching
    cases hnone.symm.trans hshape

/-- A true flag in dotted encoding beside a map of flags of which none is true, and an entry without a
    text as its key. -/
def mixedEntries : Entries Value.Key Value :=
  [(.text "s1.title", .bool true), (.text "s1", .dict [(.text "note", .int 0)]), (.int 5, .null)]

/-- A true flag for a slide, as no encoding has it. -/
def slideEntries : Entries Value.Key Value :=
  [(.text "s1", .bool true)]

theorem shape_told_of_locked_mixed :
    matching? (.dict mixedEntries) "title" (some "s1") none = some .dotted ∧
      detect? (.dict mixedEntries) = some .nested ∧ Diagnoses .dotted .nested ∧
      detect? (.dict slideEntries) = none ∧
      isLocked (.dict slideEntries) "title" (some "s1") (some 1) = false := by
  have hmatching : matching? (.dict mixedEntries) "title" (some "s1") none = some .dotted := by decide
  have hmixed : detect? (.dict mixedEntries) = some .nested := by decide
  have hslide : detect? (.dict slideEntries) = none := by decide
  obtain ⟨shape, hshape, hdiagnoses⟩ := (shape_told_of_locked _).1 hmatching
  obtain rfl := Option.some.inj (hmixed.symm.trans hshape)
  exact ⟨hmatching, hmixed, hdiagnoses, hslide, (shape_told_of_locked _).2 hslide _ _ _⟩

end Lock
end DeckEdit
