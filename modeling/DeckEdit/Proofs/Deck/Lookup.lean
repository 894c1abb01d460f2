import DeckEdit.Deck.Apply
import DeckEdit.Proofs.Entries

/-! What looking up a slide or an element answers: the first object with the id, and the one at the
    index where no id is given or none matches. -/

namespace DeckEdit
namespace Deck

/-! ### Places -/

/-- The object at a position of a list. -/
def objectAt? (entries : List Json) (position : Nat) : Option Json.Members :=
  entries[position]?.bind Json.members?

/-- What stands at a position among the elements of a slide. -/
def entryAt? (slides : List Json) (slide position : Nat) : Option Json :=
  (objectAt? slides slide).bind fun members => (elements members)[position]?

/-- The value under a key of an element. -/
def valueAt? (slides : List Json) (slide position : Nat) (key : Text) : Option Json :=
  ((entryAt? slides slide position).bind Json.members?).bind (Entries.get? key)

/-- The object at a position is the first in its list with that id. -/
structure IsFirst (id : Text) (entries : List Json) (position : Nat) (members : Json.Members) : Prop where
  entry : entries[position]? = some (.object members)
  named : id? members = some id
  earlier : ∀ i < position, ∀ other, entries[i]? = some (.object other) → id? other ≠ some id

theorem members?_eq_some {v : Json} {members : Json.Members} :
    v.members? = some members ↔ v = .object members := by
  cases v <;> simp [Json.members?]

theorem objectAt?_eq_some {entries : List Json} {position : Nat} {members : Json.Members} :
    objectAt? entries position = some members ↔ entries[position]? = some (.object members) := by
  simp [objectAt?, Option.bind_eq_some_iff, members?_eq_some]

theorem IsFirst.unique {id : Text} {entries : List Json} {i j : Nat} {m n : Json.Members}
    (h : IsFirst id entries i m) (h' : IsFirst id entries j n) : i = j ∧ m = n := by
  have hij : i = j := by
    rcases Nat.lt_trichotomy i j with hlt | heq | hgt
    · exact absurd h.named (h'.earlier i hlt m h.entry)
    · exact heq
    · exact absurd h'.named (h.earlier j hgt n h'.entry)
  subst hij
  have := h.entry.symm.trans h'.entry
  exact ⟨rfl, by simpa using this⟩

/-! ### By id -/

theorem id?_eq_some {members : Json.Members} {id : Text} :
    id? members = some id ↔ Entries.get? idKey members = some (.text id) := by
  unfold id?
  split <;> simp_all

theorem findId?_cons_of_ne {id : Text} {v : Json} {rest : List Json}
    (h : ∀ members, v = .object members → id? members ≠ some id) :
    findId? id (v :: rest) = (findId? id rest).map fun (position, found) => (position + 1, found) := by
  cases v with
  | object members => simp [findId?, h members rfl]
  | _ => rfl

theorem findId?_eq_some {id : Text} {entries : List Json} {position : Nat} {members : Json.Members} :
    findId? id entries = some (position, members) ↔ IsFirst id entries position members := by
  induction entries generalizing position with
  | nil =>
    refine ⟨fun h => (by cases h), fun h => ?_⟩
    simpa using h.entry
  | cons v rest ih =>
    by_cases hv : ∃ head, v = .object head ∧ id? head = some id
    · obtain ⟨head, rfl, hid⟩ := hv
      have hfirst : IsFirst id (.object head :: rest) 0 head := ⟨rfl, hid, by simp⟩
      constructor
      · intro h
        obtain ⟨rfl, rfl⟩ : 0 = position ∧ head = members := by simpa [findId?, hid] using h
        exact hfirst
      · intro h
        obtain ⟨rfl, rfl⟩ := hfirst.unique h
        simp [findId?, hid]
    · have hne : ∀ head, v = .object head → id? head ≠ some id := fun head hhead hid =>
        hv ⟨head, hhead, hid⟩
      rw [findId?_cons_of_ne hne]
      constructor
      · intro h
        obtain ⟨⟨i, found⟩, hfound, heq⟩ := Option.map_eq_some_iff.mp h
        cases heq
        obtain ⟨hentry, hid, hearlier⟩ := ih.mp hfound
        refine ⟨by simpa using hentry, hid, fun j hj other hother => ?_⟩
        cases j with
        | zero => exact hne other (by simpa using hother)
        | succ j => exact hearlier j (by omega) other (by simpa using hother)
      · intro h
        cases position with
        | zero => exact absurd h.named (hne members (by simpa using h.entry))
        | succ i =>
          have : IsFirst id rest i members :=
            ⟨by simpa using h.entry, h.named, fun j hj other hother =>
              h.earlier (j + 1) (by omega) other (by simpa using hother)⟩
          rw [ih.mpr this]
          rfl

/-- An id that some object of the list has is found. -/
theorem exists_findId? {id : Text} {entries : List Json} {position : Nat} {members : Json.Members}
    (hentry : entries[position]? = some (.object members)) (hid : id? members = some id) :
    ∃ found, findId? id entries = some found := by
  induction entries generalizing position with
  | nil => simp at hentry
  | cons v rest ih =>
    by_cases hv : ∃ head, v = .object head ∧ id? head = some id
    · obtain ⟨head, rfl, hhead⟩ := hv
      exact ⟨(0, head), by simp [findId?, hhead]⟩
    · have hne : ∀ head, v = .object head → id? head ≠ some id := fun head hhead hid =>
        hv ⟨head, hhead, hid⟩
      rw [findId?_cons_of_ne hne]
      cases position with
      | zero => exact absurd hid (hne members (by simpa using hentry))
      | succ i =>
        obtain ⟨found, hfound⟩ := ih (by simpa using hentry)
        exact ⟨_, by rw [hfound]; rfl⟩

theorem findElement?_eq_some {slide : Json.Members} {op : Op} {position : Nat} {element : Json.Members} :
    findElement? slide op = some (position, element) ↔
      IsFirst op.objectId (elements slide) position element :=
  findId?_eq_some

/-! ### Slides -/

theorem slideAt?_eq_some {slides : List Json} {index : Int} {position : Nat} {slide : Json.Members} :
    slideAt? slides index = some (position, slide) ↔
      index = position + 1 ∧ objectAt? slides position = some slide := by
  unfold slideAt?
  by_cases h : 1 ≤ index
  · simp only [h, ite_true, Option.map_eq_some_iff, Prod.mk.injEq]
    constructor
    · rintro ⟨found, hfound, rfl, rfl⟩
      exact ⟨by omega, hfound⟩
    · rintro ⟨rfl, hslide⟩
      exact ⟨slide, by simpa [objectAt?] using hslide, by omega, rfl⟩
  · simp only [h, ite_false, reduceCtorEq, false_iff]
    omega

/-- The slide that the id of an operation names. -/
def slideById? (slides : List Json) (op : Op) : Option (Nat × Json.Members) :=
  (op.slideId.filter (!·.isEmpty)).bind (findId? · slides)

theorem slideById?_eq_some {slides : List Json} {op : Op} {position : Nat} {slide : Json.Members} :
    slideById? slides op = some (position, slide) ↔
      ∃ id, op.slideId = some id ∧ id ≠ [] ∧ IsFirst id slides position slide := by
  simp only [slideById?, Option.bind_eq_some_iff, Option.filter_eq_some_iff, findId?_eq_some, and_assoc,
    Bool.not_eq_true', List.isEmpty_eq_false_iff]

theorem findSlide?_eq (slides : List Json) (op : Op) :
    findSlide? slides op = (slideById? slides op).or (op.slideIndex.bind (slideAt? slides)) := by
  rw [findSlide?, Option.orElse_apply, Option.orElse_eq_or, slideById?]

/-- Whichever way an operation addresses its slide, it finds an object at a position. -/
theorem objectAt?_of_findSlide? {slides : List Json} {op : Op} {position : Nat} {slide : Json.Members}
    (h : findSlide? slides op = some (position, slide)) : objectAt? slides position = some slide := by
  rw [findSlide?_eq, Option.or_eq_some_iff] at h
  rcases h with hid | ⟨-, hindex⟩
  · obtain ⟨id, -, -, hfirst⟩ := slideById?_eq_some.mp hid
    exact objectAt?_eq_some.mpr hfirst.entry
  · obtain ⟨index, -, hfound⟩ := Option.bind_eq_some_iff.mp hindex
    exact (slideAt?_eq_some.mp hfound).2

end Deck
end DeckEdit
