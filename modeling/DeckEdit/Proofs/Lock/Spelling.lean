import DeckEdit.Proofs.Lock

/-! The lock data that spells a set of locked elements in each of the encodings, and what it locks. Lock
    data does not say which encoding it is in, and two encodings join a slide key and an element without
    marking where one ends. So data that spells one set can be read as spelling more: all encodings lock
    what they spell, and each of them has its own way to lock other elements. -/

namespace DeckEdit
namespace Lock
variable {pairs : List (Text × Text)} {slideKey objectId name : Text}

/-! ### Spelling -/

/-- A map with a true flag under each name. -/
def flags (names : List Text) : Value :=
  .dict (names.eraseDups.map fun name => (.text name, .bool true))

/-- The elements that stand with a slide key in a set of pairs. -/
def elementsOf (pairs : List (Text × Text)) (slideKey : Text) : List Text :=
  (pairs.filter (·.1 == slideKey)).map (·.2)

/-- A map from the slide keys of a set of pairs to the flags of their elements. -/
def bySlide (pairs : List (Text × Text)) : Value :=
  .dict ((pairs.map (·.1)).eraseDups.map fun slideKey =>
    (.text slideKey, flags (elementsOf pairs slideKey)))

/-- The lock data for a set of pairs of a slide key and an element. -/
def Encoding.spell (pairs : List (Text × Text)) : Encoding → Value
  | tokenList => .list (pairs.map fun (slideKey, objectId) => .text (token slideKey objectId))
  | nested => bySlide pairs
  | dotted => flags (pairs.map fun (slideKey, objectId) => dottedKey slideKey objectId)
  | wrapped => .dict [(.text containerKey, bySlide pairs)]

/-- The lock data for a set of pairs also reads as data that locks this element: its token or its dotted
    key is that of a pair, or its dotted key is a slide key, so that a nested map passes for a dotted one,
    or it is a slide key on a slide with the container's name, so that a wrapped map passes for a nested
    one. -/
def Encoding.Misread (pairs : List (Text × Text)) (slideKey objectId : Text) : Encoding → Prop
  | tokenList => ∃ pair ∈ pairs, token pair.1 pair.2 = token slideKey objectId
  | nested => ∃ pair ∈ pairs, pair.1 = dottedKey slideKey objectId
  | dotted => ∃ pair ∈ pairs, dottedKey pair.1 pair.2 = dottedKey slideKey objectId
  | wrapped => slideKey = containerKey ∧ ∃ pair ∈ pairs, pair.1 = objectId

/-! ### Look-ups -/

theorem get?_map_text (names : List Text) (f : Text → Value) {found : Value} :
    Entries.get? (.text name) (names.map fun n => (Value.Key.text n, f n)) = some found ↔
      name ∈ names ∧ found = f name := by
  induction names with
  | nil => simp [Entries.get?]
  | cons head rest ih =>
    have hbeq : (Value.Key.text head == .text name) = (head == name) := rfl
    rw [List.map_cons, Entries.get?, hbeq]
    by_cases h : head = name
    · simp [h, eq_comm]
    · simp [h, Ne.symm h, ih]

theorem get?_flags {names : List Text} {found : Value} :
    (flags names).get? name = some found ↔ name ∈ names ∧ found = .bool true := by
  rw [← List.mem_eraseDups]
  exact get?_map_text _ _

theorem get?_bySlide {found : Value} :
    (bySlide pairs).get? slideKey = some found ↔
      slideKey ∈ pairs.map (·.1) ∧ found = flags (elementsOf pairs slideKey) := by
  rw [← List.mem_eraseDups]
  exact get?_map_text _ _

theorem get?_wrapped {found : Value} :
    (Encoding.wrapped.spell pairs).get? name = some found ↔ name = containerKey ∧ found = bySlide pairs :=
  (get?_map_text [containerKey] fun _ => bySlide pairs).trans (and_congr_left' List.mem_singleton)

theorem mem_elementsOf : objectId ∈ elementsOf pairs slideKey ↔ (slideKey, objectId) ∈ pairs := by
  simp [elementsOf]

/-- A slide key of a set of pairs has an element, so its flags count as true. -/
theorem isTruthy_flags_elementsOf (h : slideKey ∈ pairs.map (·.1)) :
    (flags (elementsOf pairs slideKey)).isTruthy = true := by
  obtain ⟨⟨_, objectId⟩, hpair, rfl⟩ := List.mem_map.mp h
  have hmem := List.mem_eraseDups.mpr (mem_elementsOf.mpr hpair)
  simp only [flags, Value.isTruthy, Bool.not_eq_true', List.isEmpty_eq_false_iff]
  exact fun hnil => List.ne_nil_of_mem hmem (List.map_eq_nil_iff.mp hnil)

/-! ### What is marked -/

theorem listed_tokens : listed (Encoding.tokenList.spell pairs) objectId slideKey = true ↔
    ∃ pair ∈ pairs, token pair.1 pair.2 = token slideKey objectId := by
  simp only [Encoding.spell, listed, List.filterMap_map, List.contains_iff_mem, List.mem_filterMap,
    Function.comp_apply, Value.text?, Option.some.injEq]

theorem flagged_flags (names : List Text) : flagged (flags names) objectId slideKey = false := by
  refine Bool.eq_false_iff.mpr fun hflagged => ?_
  obtain ⟨elements, flag, hslide, helement, -⟩ := flagged_iff.mp hflagged
  obtain ⟨-, rfl⟩ := get?_flags.mp hslide
  cases helement

theorem flagged_bySlide :
    flagged (bySlide pairs) objectId slideKey = true ↔ (slideKey, objectId) ∈ pairs := by
  rw [flagged_iff]
  constructor
  · rintro ⟨elements, flag, hslide, helement, -⟩
    obtain ⟨-, rfl⟩ := get?_bySlide.mp hslide
    exact mem_elementsOf.mp (get?_flags.mp helement).1
  · intro hpair
    exact ⟨_, _, get?_bySlide.mpr ⟨List.mem_map_of_mem hpair, rfl⟩,
      get?_flags.mpr ⟨mem_elementsOf.mpr hpair, rfl⟩, rfl⟩

/-- The dotted keys of the elements of a slide never are the container's, which has no dot in it. -/
theorem dottedKey_ne_containerKey : dottedKey slideKey objectId ≠ containerKey := by
  intro h
  have hdot : CodePoint.ofChar '.' ∈ dottedKey slideKey objectId :=
    List.mem_append_left _ (List.mem_append_right _ (List.mem_singleton_self _))
  rw [h] at hdot
  exact absurd hdot (by decide)

theorem marks_tokens :
    (∃ encoding, marks (Encoding.tokenList.spell pairs) objectId slideKey encoding = true) ↔
      ∃ pair ∈ pairs, token pair.1 pair.2 = token slideKey objectId := by
  rw [exists_marks_iff]
  constructor
  · -- The data is read as a token list and as a nested, a dotted and a wrapped map in turn.
    rintro (hlisted | hflagged | ⟨_, hget, -⟩ | ⟨_, hget, -⟩)
    · exact listed_tokens.mp hlisted
    · cases hflagged
    · cases hget
    · cases hget
  · intro hlisted
    exact Or.inl (listed_tokens.mpr hlisted)

theorem marks_nested :
    (∃ encoding, marks (Encoding.nested.spell pairs) objectId slideKey encoding = true) ↔
      (slideKey, objectId) ∈ pairs ∨ ∃ pair ∈ pairs, pair.1 = dottedKey slideKey objectId := by
  rw [exists_marks_iff, Encoding.spell, ← List.mem_map]
  constructor
  · rintro (hlisted | hflagged | ⟨_, hget, -⟩ | ⟨_, hget, hflagged⟩)
    · cases hlisted
    · exact Or.inl (flagged_bySlide.mp hflagged)
    · exact Or.inr (get?_bySlide.mp hget).1
    · obtain ⟨-, rfl⟩ := get?_bySlide.mp hget
      rw [flagged_flags] at hflagged
      cases hflagged
  · rintro (hpair | hkey)
    · exact Or.inr (Or.inl (flagged_bySlide.mpr hpair))
    · have hget := get?_bySlide.mpr ⟨hkey, rfl⟩
      exact Or.inr (Or.inr (Or.inl ⟨_, hget, isTruthy_flags_elementsOf hkey⟩))

theorem marks_dotted :
    (∃ encoding, marks (Encoding.dotted.spell pairs) objectId slideKey encoding = true) ↔
      ∃ pair ∈ pairs, dottedKey pair.1 pair.2 = dottedKey slideKey objectId := by
  rw [exists_marks_iff, Encoding.spell, ← List.mem_map]
  constructor
  · rintro (hlisted | hflagged | ⟨_, hget, -⟩ | ⟨_, hget, hflagged⟩)
    · cases hlisted
    · rw [flagged_flags] at hflagged
      cases hflagged
    · exact (get?_flags.mp hget).1
    · obtain ⟨-, rfl⟩ := get?_flags.mp hget
      cases hflagged
  · intro hkey
    exact Or.inr (Or.inr (Or.inl ⟨_, get?_flags.mpr ⟨hkey, rfl⟩, rfl⟩))

theorem marks_wrapped :
    (∃ encoding, marks (Encoding.wrapped.spell pairs) objectId slideKey encoding = true) ↔
      (slideKey, objectId) ∈ pairs ∨ slideKey = containerKey ∧ ∃ pair ∈ pairs, pair.1 = objectId := by
  rw [exists_marks_iff, ← List.mem_map]
  constructor
  · rintro (hlisted | hflagged | ⟨_, hget, -⟩ | ⟨_, hget, hflagged⟩)
    · cases hlisted
    · obtain ⟨_, _, hslide, helement, -⟩ := flagged_iff.mp hflagged
      obtain ⟨hkey, rfl⟩ := get?_wrapped.mp hslide
      exact Or.inr ⟨hkey, (get?_bySlide.mp helement).1⟩
    · exact absurd (get?_wrapped.mp hget).1 dottedKey_ne_containerKey
    · obtain ⟨-, rfl⟩ := get?_wrapped.mp hget
      exact Or.inl (flagged_bySlide.mp hflagged)
  · rintro (hpair | ⟨hkey, hobject⟩)
    · exact Or.inr (Or.inr (Or.inr ⟨_, get?_wrapped.mpr ⟨rfl, rfl⟩, flagged_bySlide.mpr hpair⟩))
    · have hflagged : flagged (Encoding.wrapped.spell pairs) objectId slideKey = true :=
        flagged_iff.mpr ⟨_, _, get?_wrapped.mpr ⟨hkey, rfl⟩, get?_bySlide.mpr ⟨hobject, rfl⟩,
          isTruthy_flags_elementsOf hobject⟩
      exact Or.inr (Or.inl hflagged)

/-- The lock data for a set of pairs marks the pairs, and what it is misread for. -/
theorem exists_marks_spell_iff (encoding : Encoding) :
    (∃ other, marks (encoding.spell pairs) objectId slideKey other = true) ↔
      (slideKey, objectId) ∈ pairs ∨ encoding.Misread pairs slideKey objectId := by
  cases encoding with
  | tokenList =>
    rw [marks_tokens]
    exact (or_iff_right_of_imp fun hpair => ⟨_, hpair, rfl⟩).symm
  | nested => exact marks_nested
  | dotted =>
    rw [marks_dotted]
    exact (or_iff_right_of_imp fun hpair => ⟨_, hpair, rfl⟩).symm
  | wrapped => exact marks_wrapped

end Lock
end DeckEdit
