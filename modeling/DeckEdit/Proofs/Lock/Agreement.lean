import DeckEdit.Proofs.Lock.Spelling
import DeckEdit.Proofs.Text

/-! Lock data for the same set of elements in each of the encodings. All encodings lock the elements of the
    set; beyond it each locks what its data is misread for, so they agree where nothing is. That is so
    where slide keys hold no separator and no slide has the container's name. -/

namespace DeckEdit
namespace Lock
variable {pairs : List (Text × Text)} {slideKey objectId : Text} {slideId : Option Text}
  {slideIndex : Option Int}

/-! ### Queries -/

/-- A slide that is known by an id, an index or both has the element among a set of pairs. -/
def Names (pairs : List (Text × Text)) (objectId : Text) (slideId : Option Text)
    (slideIndex : Option Int) : Prop :=
  (∃ id, slideId = some id ∧ (id, objectId) ∈ pairs) ∨
    ∃ index, slideIndex = some index ∧ (Text.ofInt index, objectId) ∈ pairs

theorem names_iff (hkeys : ∀ pair ∈ pairs, pair.1 ≠ []) :
    Names pairs objectId slideId slideIndex ↔
      ∃ slideKey ∈ slideKeys slideId slideIndex, (slideKey, objectId) ∈ pairs := by
  constructor
  · rintro (⟨id, hid, hpair⟩ | ⟨index, hindex, hpair⟩)
    · exact ⟨id, mem_slideKeys.mpr (Or.inl ⟨hid, hkeys _ hpair⟩), hpair⟩
    · exact ⟨_, mem_slideKeys.mpr (Or.inr ⟨index, hindex, rfl⟩), hpair⟩
  · rintro ⟨slideKey, hkey, hpair⟩
    rcases mem_slideKeys.mp hkey with ⟨hid, -⟩ | ⟨index, hindex, rfl⟩
    · exact Or.inl ⟨slideKey, hid, hpair⟩
    · exact Or.inr ⟨index, hindex, hpair⟩

/-! ### Slide keys without separators -/

/-- A slide key with neither separator in it. -/
def Plain (slideKey : Text) : Prop :=
  CodePoint.ofChar ':' ∉ slideKey ∧ CodePoint.ofChar '.' ∉ slideKey

instance : DecidablePred Plain := fun _ => inferInstanceAs (Decidable (_ ∧ _))

theorem plain_ofInt (index : Int) : Plain (Text.ofInt index) :=
  ⟨Text.notMem_ofInt (by decide) (by decide) _, Text.notMem_ofInt (by decide) (by decide) _⟩

theorem ofInt_ne_containerKey (index : Int) : Text.ofInt index ≠ containerKey := by
  intro h
  have hmem : CodePoint.ofChar 'b' ∈ containerKey := by decide
  exact Text.notMem_ofInt (by decide) (by decide) index (h ▸ hmem)

theorem token_inj {k l o q : Text} (hk : Plain k) (hl : Plain l) :
    token k o = token l q ↔ k = l ∧ o = q := by
  rw [token_eq, token_eq, Text.append_separator_inj hk.1 hl.1]

theorem dottedKey_inj {k l o q : Text} (hk : Plain k) (hl : Plain l) :
    dottedKey k o = dottedKey l q ↔ k = l ∧ o = q := by
  rw [dottedKey_eq, dottedKey_eq, Text.append_separator_inj hk.2 hl.2]

/-- Under plain slide keys nothing is misread, except on a slide with the container's name. -/
theorem mem_of_misread {encoding : Encoding} (hpairs : ∀ pair ∈ pairs, Plain pair.1)
    (hkey : Plain slideKey) (hne : slideKey ≠ containerKey) (h : encoding.Misread pairs slideKey objectId) :
    (slideKey, objectId) ∈ pairs := by
  cases encoding with
  | tokenList =>
    obtain ⟨⟨k, o⟩, hpair, htoken⟩ := h
    obtain ⟨rfl, rfl⟩ := (token_inj (hpairs _ hpair) hkey).mp htoken
    exact hpair
  | nested =>
    obtain ⟨pair, hpair, hdotted⟩ := h
    have hdot := (hpairs pair hpair).2
    rw [hdotted] at hdot
    exact absurd (List.mem_append_left _ (List.mem_append_right _ (List.mem_singleton_self _))) hdot
  | dotted =>
    obtain ⟨⟨k, o⟩, hpair, hdotted⟩ := h
    obtain ⟨rfl, rfl⟩ := (dottedKey_inj (hpairs _ hpair) hkey).mp hdotted
    exact hpair
  | wrapped => exact absurd h.1 hne

/-! ### What is locked -/

theorem isLocked_spell (hobject : objectId ≠ []) (encoding : Encoding) :
    isLocked (encoding.spell pairs) objectId slideId slideIndex = true ↔
      ∃ slideKey ∈ slideKeys slideId slideIndex,
        (slideKey, objectId) ∈ pairs ∨ encoding.Misread pairs slideKey objectId := by
  rw [isLocked_iff, and_iff_right hobject]
  simp only [exists_marks_spell_iff]

/-- In each encoding the lock data for a set of pairs locks the elements that the set names, and beyond them
    exactly what it is misread for. So all encodings lock just what the set names if no slide key holds a
    separator and the slide does not have the container's name. -/
theorem isLocked_spell_iff_names (hkeys : ∀ pair ∈ pairs, pair.1 ≠ []) (hobject : objectId ≠ []) :
    (∀ encoding : Encoding, isLocked (encoding.spell pairs) objectId slideId slideIndex = true ↔
      Names pairs objectId slideId slideIndex ∨
        ∃ slideKey ∈ slideKeys slideId slideIndex, encoding.Misread pairs slideKey objectId) ∧
    ((∀ pair ∈ pairs, Plain pair.1) → (∀ id, slideId = some id → Plain id ∧ id ≠ containerKey) →
      ∀ encoding : Encoding, isLocked (encoding.spell pairs) objectId slideId slideIndex = true ↔
        Names pairs objectId slideId slideIndex) := by
  constructor
  · intro encoding
    rw [isLocked_spell hobject, names_iff hkeys, ← exists_or]
    simp only [← and_or_left]
  · intro hpairs hid encoding
    rw [isLocked_spell hobject, names_iff hkeys]
    refine exists_congr fun slideKey => and_congr_right fun hkey => or_iff_left_of_imp fun hmisread => ?_
    -- The keys of the slide are its id, which is plain by assumption, and its index, which always is.
    have hplain : Plain slideKey ∧ slideKey ≠ containerKey := by
      rcases mem_slideKeys.mp hkey with ⟨hsome, -⟩ | ⟨index, -, rfl⟩
      · exact hid slideKey hsome
      · exact ⟨plain_ofInt index, ofInt_ne_containerKey index⟩
    exact mem_of_misread hpairs hplain.1 hplain.2 hmisread

/-- Locked elements on a slide with an id and on one with an index; separators stand in elements only. -/
def plainPairs : List (Text × Text) :=
  [("s1", "title"), ("s1", "a.b:c"), ("2", "title")]

theorem isLocked_spell_iff_names_plain :
    (∀ pair ∈ plainPairs, pair.1 ≠ [] ∧ Plain pair.1) ∧
      ∀ encoding : Encoding,
        isLocked (encoding.spell plainPairs) "a.b:c" (some "s1") (some 7) = true ∧
        isLocked (encoding.spell plainPairs) "title" (some "s3") (some 2) = true ∧
        isLocked (encoding.spell plainPairs) "title" (some "s3") (some 7) = false := by
  have hplain : ∀ pair ∈ plainPairs, pair.1 ≠ [] ∧ Plain pair.1 := by decide
  have hkeys : ∀ pair ∈ plainPairs, pair.1 ≠ [] := fun pair hpair => (hplain pair hpair).1
  have htitle : ("title" : Text) ≠ [] := by decide
  refine ⟨hplain, fun encoding => ⟨?_, ?_, ?_⟩⟩
  · have hnames : Names plainPairs "a.b:c" (some "s1") (some 7) := Or.inl ⟨"s1", rfl, by decide⟩
    exact ((isLocked_spell_iff_names hkeys (by decide)).1 encoding).mpr (Or.inl hnames)
  · have hnames : Names plainPairs "title" (some "s3") (some 2) := Or.inr ⟨2, rfl, by decide⟩
    exact ((isLocked_spell_iff_names hkeys htitle).1 encoding).mpr (Or.inl hnames)
  · have hid : ∀ id, some ("s3" : Text) = some id → Plain id ∧ id ≠ containerKey := by
      intro id hsome
      cases hsome
      decide
    have hplain' : ∀ pair ∈ plainPairs, Plain pair.1 := fun pair hpair => (hplain pair hpair).2
    refine Bool.eq_false_iff.mpr fun hlocked => ?_
    have hnames := ((isLocked_spell_iff_names hkeys htitle).2 hplain' hid encoding).mp hlocked
    rcases hnames with ⟨id, hsome, hpair⟩ | ⟨index, hsome, hpair⟩
    · cases hsome
      exact absurd hpair (by decide)
    · cases hsome
      exact absurd hpair (by decide)

/-- What each encoding in turn answers for an element when the set holds one other pair. -/
theorem encodings_disagree :
    let answers (pair : Text × Text) (slideId objectId : Text) :=
      Encoding.all.map fun encoding => isLocked (encoding.spell [pair]) objectId (some slideId) none
    answers ("a", "b:c") "a:b" "c" = [true, false, false, false] ∧
      answers ("a.b", "c") "a" "b" = [false, true, false, false] ∧
      answers ("a", "b.c") "a.b" "c" = [false, false, true, false] ∧
      answers ("a", "b") "bySlide" "a" = [false, false, false, true] := by
  decide

end Lock
end DeckEdit
