import DeckEdit.Value.Clone
import Mathlib.Data.List.Basic

/-! What keeps a value from being copied: a part, at whatever depth, that has no place in JSON. The parts
    are walked over from the outside to the inside in the order in which they are written, and the first
    such part is the one that is named. -/

namespace DeckEdit
namespace Value

/-! ### Parts -/

/-- A key or a value that stands in a value. -/
inductive Part where
  | key (k : Key)
  | value (v : Value)

/-- The part stands in the value, at some depth. A value is a part of itself. -/
inductive Holds : Value → Part → Prop where
  | self (v : Value) : Holds v (.value v)
  | listItem {items : List Value} {v : Value} {part : Part} (hitem : v ∈ items) (h : Holds v part) :
      Holds (.list items) part
  | tupleItem {items : List Value} {v : Value} {part : Part} (hitem : v ∈ items) (h : Holds v part) :
      Holds (.tuple items) part
  | key {entries : List (Key × Value)} {k : Key} {v : Value} (hentry : (k, v) ∈ entries) :
      Holds (.dict entries) (.key k)
  | entry {entries : List (Key × Value)} {k : Key} {v : Value} {part : Part} (hentry : (k, v) ∈ entries)
      (h : Holds v part) : Holds (.dict entries) part

mutual

/-- All parts of a value, in the order in which they are written: a value before what it holds, and a key
    before the value under it. -/
def parts : Value → List Part
  | list items => .value (list items) :: partsOfItems items
  | tuple items => .value (tuple items) :: partsOfItems items
  | dict entries => .value (dict entries) :: partsOfEntries entries
  | v => [.value v]

def partsOfItems : List Value → List Part
  | [] => []
  | v :: rest => parts v ++ partsOfItems rest

def partsOfEntries : List (Key × Value) → List Part
  | [] => []
  | (k, v) :: rest => .key k :: (parts v ++ partsOfEntries rest)

end

theorem mem_partsOfItems {items : List Value} {part : Part} :
    part ∈ partsOfItems items ↔ ∃ v ∈ items, part ∈ v.parts := by
  induction items with
  | nil => simp [partsOfItems]
  | cons v rest ih => simp [partsOfItems, ih]

theorem mem_partsOfEntries {entries : List (Key × Value)} {part : Part} :
    part ∈ partsOfEntries entries ↔ ∃ entry ∈ entries, part = .key entry.1 ∨ part ∈ entry.2.parts := by
  induction entries with
  | nil => simp [partsOfEntries]
  | cons entry rest ih =>
    obtain ⟨k, v⟩ := entry
    simp [partsOfEntries, ih, or_assoc]

theorem mem_parts_self (v : Value) : .value v ∈ v.parts := by
  cases v <;> simp [parts]

mutual

theorem holds_of_mem_parts {part : Part} : ∀ v : Value, part ∈ v.parts → Holds v part
  | .null, h | .bool _, h | .int _, h | .float _, h | .text _, h | .bytes _, h | .unknown, h => by
    obtain rfl := List.mem_singleton.mp h
    exact .self _
  | .list items, h => by
    rcases List.mem_cons.mp h with rfl | h
    · exact .self _
    · obtain ⟨v, hv, hpart⟩ := exists_holds_of_items items h
      exact .listItem hv hpart
  | .tuple items, h => by
    rcases List.mem_cons.mp h with rfl | h
    · exact .self _
    · obtain ⟨v, hv, hpart⟩ := exists_holds_of_items items h
      exact .tupleItem hv hpart
  | .dict entries, h => by
    rcases List.mem_cons.mp h with rfl | h
    · exact .self _
    · obtain ⟨k, v, hentry, rfl | hpart⟩ := exists_holds_of_entries entries h
      · exact .key hentry
      · exact .entry hentry hpart

theorem exists_holds_of_items {part : Part} : ∀ items : List Value, part ∈ partsOfItems items →
    ∃ v ∈ items, Holds v part
  | v :: rest, h => by
    rcases List.mem_append.mp h with h | h
    · exact ⟨v, List.mem_cons_self, holds_of_mem_parts v h⟩
    · obtain ⟨w, hw, hpart⟩ := exists_holds_of_items rest h
      exact ⟨w, List.mem_cons_of_mem v hw, hpart⟩

theorem exists_holds_of_entries {part : Part} : ∀ entries : List (Key × Value),
    part ∈ partsOfEntries entries → ∃ k v, (k, v) ∈ entries ∧ (part = .key k ∨ Holds v part)
  | (k, v) :: rest, h => by
    rcases List.mem_cons.mp h with rfl | h
    · exact ⟨k, v, List.mem_cons_self, Or.inl rfl⟩
    · rcases List.mem_append.mp h with h | h
      · exact ⟨k, v, List.mem_cons_self, Or.inr (holds_of_mem_parts v h)⟩
      · obtain ⟨l, w, hentry, hpart⟩ := exists_holds_of_entries rest h
        exact ⟨l, w, List.mem_cons_of_mem _ hentry, hpart⟩

end

/-- The walk meets every part, and nothing else. -/
theorem mem_parts_iff {v : Value} {part : Part} : part ∈ v.parts ↔ v.Holds part := by
  refine ⟨holds_of_mem_parts v, fun h => ?_⟩
  induction h with
  | self v => exact mem_parts_self v
  | listItem hitem _ ih => exact List.mem_cons_of_mem _ (mem_partsOfItems.mpr ⟨_, hitem, ih⟩)
  | tupleItem hitem _ ih => exact List.mem_cons_of_mem _ (mem_partsOfItems.mpr ⟨_, hitem, ih⟩)
  | key hentry => exact List.mem_cons_of_mem _ (mem_partsOfEntries.mpr ⟨_, hentry, Or.inl rfl⟩)
  | entry hentry _ ih => exact List.mem_cons_of_mem _ (mem_partsOfEntries.mpr ⟨_, hentry, Or.inr ih⟩)

/-! ### Parts that are not JSON -/

/-- The kinds of the values that have a place in JSON. A tuple has that of an array. -/
def Kind.isJson : Kind → Bool
  | .bytes | .unknown => false
  | _ => true

/-- What is wrong with a part, taken alone: a key that is no text, or a value of a kind that JSON does not
    have. -/
def Part.foreign? : Part → Option NotJson
  | key k => if k.toValue.kind = .text then none else some (.key k.toValue.kind)
  | value v => if v.kind.isJson then none else some (.part v.kind)

/-- What is wrong with the first foreign part that a walk over the value meets. -/
def firstForeign? (v : Value) : Option NotJson :=
  v.parts.findSome? Part.foreign?

/-- Some part of the value, at whatever depth, has no place in JSON. -/
def HasForeign (v : Value) : Prop :=
  ∃ part cause, v.Holds part ∧ part.foreign? = some cause

theorem firstForeign?_isSome_iff {v : Value} : (∃ cause, v.firstForeign? = some cause) ↔ v.HasForeign := by
  rw [← Option.isSome_iff_exists, firstForeign?, List.findSome?_isSome_iff]
  simp only [mem_parts_iff, Option.isSome_iff_exists, HasForeign, exists_and_left]

theorem firstForeign?_eq_none_iff {v : Value} : v.firstForeign? = none ↔ ¬ v.HasForeign := by
  rw [← firstForeign?_isSome_iff, ← Option.isSome_iff_exists, Bool.not_eq_true, Option.isSome_eq_false_iff,
    Option.isNone_iff_eq_none]

/-! ### The copy -/

/-- What a copy fails with, if it fails. -/
def failure? {α : Type} : Except NotJson α → Option NotJson
  | .ok _ => none
  | .error cause => some cause

section
variable {α β γ : Type} {a : Except NotJson α} {b : Except NotJson β}

theorem failure?_eq_some {cause : NotJson} : failure? a = some cause ↔ a = .error cause := by
  cases a <;> simp [failure?]

theorem failure?_eq_none : failure? a = none ↔ ∃ x, a = .ok x := by
  cases a <;> simp [failure?]

theorem failure?_map (f : α → β) : failure? (a.map f) = failure? a := by
  cases a <;> rfl

/-- Of two copies made one after the other, the first that fails counts. -/
theorem failure?_bind_map (f : α → β → γ) :
    failure? (do return f (← a) (← b)) = (failure? a).or (failure? b) := by
  cases a <;> cases b <;> rfl

end

mutual

theorem failure?_toJson : ∀ v : Value, failure? v.toJson = v.parts.findSome? Part.foreign?
  | .null | .bool _ | .int _ | .float _ | .text _ | .bytes _ | .unknown => rfl
  | .list items => by
    rw [toJson, failure?_map, failure?_toJsonItems items]
    rfl
  | .tuple items => by
    rw [toJson, failure?_map, failure?_toJsonItems items]
    rfl
  | .dict entries => by
    rw [toJson, failure?_map, failure?_toJsonMembers entries]
    rfl

theorem failure?_toJsonItems : ∀ items : List Value,
    failure? (toJsonItems items) = (partsOfItems items).findSome? Part.foreign?
  | [] => rfl
  | v :: rest => by
    rw [toJsonItems, failure?_bind_map, failure?_toJson v, failure?_toJsonItems rest, partsOfItems,
      List.findSome?_append]

theorem failure?_toJsonMembers : ∀ entries : List (Key × Value),
    failure? (toJsonMembers entries) = (partsOfEntries entries).findSome? Part.foreign?
  | [] => rfl
  | (.text name, v) :: rest => by
    rw [toJsonMembers, failure?_bind_map, failure?_toJson v, failure?_toJsonMembers rest, partsOfEntries,
      List.findSome?_cons, List.findSome?_append]
    rfl
  | (.null, _) :: _ | (.bool _, _) :: _ | (.int _, _) :: _ | (.float _, _) :: _ => rfl

end

/-- A copy fails exactly if some part is foreign, and the first one is named. -/
theorem toJson_eq_error {v : Value} {cause : NotJson} :
    v.toJson = .error cause ↔ v.firstForeign? = some cause := by
  rw [← failure?_eq_some, failure?_toJson, firstForeign?]

theorem exists_toJson_iff {v : Value} : (∃ copy, v.toJson = .ok copy) ↔ v.firstForeign? = none := by
  rw [← failure?_eq_none, failure?_toJson, firstForeign?]

end Value
end DeckEdit
