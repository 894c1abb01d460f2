import DeckEdit.Deck.Apply
import DeckEdit.Proofs.Entries

/-! What a change leaves in its element: under each key the value that it writes there, if it writes one,
    and else the value from before. Keys stay in their order, and new ones come last. -/

namespace DeckEdit
namespace Change

/-- The value that a change writes under a key; of a key that a style holds twice, the later one. -/
def written? (change : Change) (key : Text) : Option Json :=
  match change with
  | setText text => if key = "text" then some (.text text) else none
  | setStyle style => (Entries.get? key style.reverse).bind fun v => v.toJson.toOption
  | move x y =>
    if key = "x" then x.map Coordinate.toJson
    else if key = "y" then y.map Coordinate.toJson
    else none

theorem writeStyle_cons_eq_ok {element changed : Json.Members} {key : Text} {v : Value}
    {rest : List (Text × Value)} : writeStyle element ((key, v) :: rest) = .ok changed ↔
      ∃ copy, v.toJson = .ok copy ∧ writeStyle (element.set key copy) rest = .ok changed := by
  cases h : v.toJson with
  | error cause => simp [writeStyle, h]
  | ok copy => simp [writeStyle, h]

/-- A style is written only if all of its values are JSON. -/
theorem exists_toJson_of_writeStyle {element changed : Json.Members} {style : List (Text × Value)}
    (h : writeStyle element style = .ok changed) :
    ∀ entry ∈ style, ∃ copy, entry.2.toJson = .ok copy := by
  induction style generalizing element with
  | nil => simp
  | cons entry rest ih =>
    obtain ⟨copy, hcopy, hrest⟩ := writeStyle_cons_eq_ok.mp h
    intro other hother
    rcases List.mem_cons.mp hother with rfl | hother
    · exact ⟨copy, hcopy⟩
    · exact ih hrest other hother

theorem get?_writeStyle {element changed : Json.Members} {style : List (Text × Value)}
    (h : writeStyle element style = .ok changed) (key : Text) :
    Entries.get? key changed = ((setStyle style).written? key).or (Entries.get? key element) := by
  induction style generalizing element with
  | nil =>
    cases h
    rfl
  | cons entry rest ih =>
    obtain ⟨k, v⟩ := entry
    obtain ⟨copy, hcopy, hrest⟩ := writeStyle_cons_eq_ok.mp h
    rw [ih hrest, Entries.get?_set]
    simp only [written?, List.reverse_cons, Entries.get?_append]
    cases hlater : Entries.get? key rest.reverse with
    | none =>
      by_cases hk : k = key <;> simp [Entries.get?, hk, hcopy, Except.toOption]
    | some w =>
      -- A later entry has the key; its value was copied, so the earlier one is lost.
      obtain ⟨copy', hcopy'⟩ := exists_toJson_of_writeStyle hrest _
        (List.mem_reverse.mp (Entries.mem_of_get? hlater))
      simp [hcopy', Except.toOption]

/-- Writes a coordinate, if there is one. -/
def writeCoordinate (name : Text) (coordinate : Option Coordinate) (element : Json.Members) : Json.Members :=
  match coordinate with
  | some c => element.set name c.toJson
  | none => element

theorem apply_move (x y : Option Coordinate) (element : Json.Members) :
    (move x y).apply element = .ok (writeCoordinate "y" y (writeCoordinate "x" x element)) := rfl

theorem get?_writeCoordinate (name : Text) (coordinate : Option Coordinate) (element : Json.Members)
    (key : Text) : Entries.get? key (writeCoordinate name coordinate element) =
      (if key = name then coordinate.map Coordinate.toJson else none).or (Entries.get? key element) := by
  cases coordinate with
  | none => simp [writeCoordinate]
  | some c =>
    simp only [writeCoordinate, Entries.get?_set, beq_iff_eq, Option.map_some]
    by_cases hkey : key = name
    · simp [hkey]
    · simp [hkey, Ne.symm hkey]

/-- An element after a change holds what was written, and else what it held before. -/
theorem get?_apply {change : Change} {element changed : Json.Members}
    (h : change.apply element = .ok changed) (key : Text) :
    Entries.get? key changed = (change.written? key).or (Entries.get? key element) := by
  cases change with
  | setText text =>
    cases h
    simp only [Entries.get?_set, written?, beq_iff_eq]
    by_cases hkey : key = "text"
    · simp [hkey]
    · simp [hkey, Ne.symm hkey]
  | setStyle style => exact get?_writeStyle h key
  | move x y =>
    have hxy : ("x" : Text) ≠ "y" := by decide
    rw [apply_move] at h
    cases h
    rw [get?_writeCoordinate, get?_writeCoordinate, ← Option.or_assoc, written?]
    by_cases hx : key = "x"
    · simp [hx, hxy]
    · simp [hx]

/-! ### Writes -/

def coordinateWrites (name : Text) (coordinate : Option Coordinate) : Json.Members :=
  (coordinate.map fun c => (name, c.toJson)).toList

/-- All that a change writes, in order; none of it depends on the element. -/
def writes : Change → Except NotJson Json.Members
  | setText text => .ok [("text", .text text)]
  | setStyle style => Value.toJsonMembers (style.map fun (name, v) => (.text name, v))
  | move x y => .ok (coordinateWrites "x" x ++ coordinateWrites "y" y)

theorem writeStyle_eq_map (element : Json.Members) (style : List (Text × Value)) :
    writeStyle element style = (setStyle style).writes.map (Entries.setAll · element) := by
  induction style generalizing element with
  | nil => rfl
  | cons entry rest ih =>
    obtain ⟨key, v⟩ := entry
    simp only [writes, List.map_cons, writeStyle, Value.toJsonMembers] at ih ⊢
    cases v.toJson with
    | error cause => rfl
    | ok copy =>
      simp only [ih, bind, Except.bind, pure, Except.pure]
      cases Value.toJsonMembers (rest.map fun (name, v) => (.text name, v)) <;> rfl

/-- An element after a change is the element with all that the change writes. -/
theorem apply_eq_map_writes (change : Change) (element : Json.Members) :
    change.apply element = change.writes.map (Entries.setAll · element) := by
  cases change with
  | setText text => rfl
  | setStyle style => exact writeStyle_eq_map element style
  | move x y => cases x <;> cases y <;> rfl

theorem apply_eq_ok {change : Change} {element changed : Json.Members} :
    change.apply element = .ok changed ↔
      ∃ written, change.writes = .ok written ∧ changed = Entries.setAll written element := by
  rw [apply_eq_map_writes]
  cases change.writes <;> simp [Except.map, eq_comm]

/-- The keys of an element stay in front, in their order, whatever is done to it. -/
theorem keys_prefix_apply {change : Change} {element changed : Json.Members}
    (h : change.apply element = .ok changed) : Entries.keys element <+: Entries.keys changed := by
  obtain ⟨written, -, rfl⟩ := apply_eq_ok.mp h
  exact Entries.keys_prefix_setAll written element

/-! ### Ids -/

/-- The change is a style with a value for the id of its element. -/
def Renames : Change → Prop
  | setStyle style => Deck.idKey ∈ Entries.keys style
  | _ => False

instance : DecidablePred Renames
  | setText _ => inferInstanceAs (Decidable False)
  | setStyle style => inferInstanceAs (Decidable (Deck.idKey ∈ Entries.keys style))
  | move _ _ => inferInstanceAs (Decidable False)

theorem written?_id {change : Change} (h : ¬ change.Renames) : change.written? Deck.idKey = none := by
  cases change with
  | setText text => rfl
  | setStyle style =>
    have hnone : Entries.get? Deck.idKey style.reverse = none := by
      refine Option.eq_none_iff_forall_ne_some.mpr fun v hv => h ?_
      exact List.mem_map_of_mem (List.mem_reverse.mp (Entries.mem_of_get? hv))
    rw [written?, hnone, Option.bind_none]
  | move x y => rfl

/-- An element that is not renamed keeps its id. -/
theorem id?_apply {change : Change} {element changed : Json.Members}
    (h : change.apply element = .ok changed) (hkeep : ¬ change.Renames) :
    Deck.id? changed = Deck.id? element := by
  simp only [Deck.id?, get?_apply h, written?_id hkeep, Option.none_or]

end Change
end DeckEdit
