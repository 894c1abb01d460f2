import DeckEdit.Deck.Basic
import DeckEdit.Proofs.Entries

/-! What the copy of a value holds: the copies of its items and of what stands under its keys. -/

namespace DeckEdit
namespace Value

theorem toJsonItems_cons_eq_ok {v : Value} {rest : List Value} {copies : List Json} :
    toJsonItems (v :: rest) = .ok copies ↔
      ∃ first later, v.toJson = .ok first ∧ toJsonItems rest = .ok later ∧ copies = first :: later := by
  rw [toJsonItems]
  cases v.toJson with
  | error cause => simp [bind, Except.bind]
  | ok first =>
    cases toJsonItems rest with
    | error cause => simp [bind, Except.bind]
    | ok later => simp [bind, Except.bind, pure, Except.pure, eq_comm]

theorem toJsonMembers_cons_eq_ok {key : Key} {v : Value} {rest : List (Key × Value)}
    {copies : Json.Members} :
    toJsonMembers ((key, v) :: rest) = .ok copies ↔
      ∃ name first later, key = .text name ∧ v.toJson = .ok first ∧ toJsonMembers rest = .ok later ∧
        copies = (name, first) :: later := by
  cases key with
  | text name =>
    rw [toJsonMembers]
    cases v.toJson with
    | error cause => simp [bind, Except.bind]
    | ok first =>
      cases toJsonMembers rest with
      | error cause => simp [bind, Except.bind]
      | ok later => simp [bind, Except.bind, pure, Except.pure, eq_comm]
  | _ => simp [toJsonMembers]

theorem map_toJson_items {items : List Value} {copies : List Json} (h : toJsonItems items = .ok copies) :
    items.map toJson = copies.map .ok := by
  induction items generalizing copies with
  | nil =>
    cases h
    rfl
  | cons v rest ih =>
    obtain ⟨first, later, hfirst, hlater, rfl⟩ := toJsonItems_cons_eq_ok.mp h
    rw [List.map_cons, List.map_cons, hfirst, ih hlater]

theorem text_beq (s t : Text) : (Key.text s == Key.text t) = (s == t) := rfl

/-- The entry that a text names has that text as its key. -/
theorem eq_text_of_beq {k : Key} {name : Text} (h : (k == .text name) = true) : k = .text name := by
  cases k with
  | text t =>
    rw [text_beq] at h
    rw [beq_iff_eq.mp h]
  | float f =>
    change Key.same (.float f) (.text name) = true at h
    cases hint : f.toInt? <;> simp [Key.same, Key.integer?, hint] at h
  | _ => cases h

theorem mem_of_get? {name : Text} {entries : Entries Key Value} {v : Value}
    (h : Entries.get? (.text name) entries = some v) : (.text name, v) ∈ entries := by
  induction entries with
  | nil => cases h
  | cons entry rest ih =>
    obtain ⟨k, w⟩ := entry
    rw [Entries.get?] at h
    split at h
    · rename_i hk
      rw [eq_text_of_beq hk, Option.some.inj h]
      exact List.mem_cons_self
    · exact List.mem_cons_of_mem _ (ih h)

/-- Under each key the copy of a mapping has the copy of what stood there. -/
theorem map_toJson_get? {entries : Entries Key Value} {copies : Json.Members}
    (h : toJsonMembers entries = .ok copies) (name : Text) :
    (entries.get? (.text name)).map toJson = (copies.get? name).map .ok := by
  induction entries generalizing copies with
  | nil =>
    cases h
    rfl
  | cons entry rest ih =>
    obtain ⟨key, v⟩ := entry
    obtain ⟨k, first, later, rfl, hfirst, hlater, rfl⟩ := toJsonMembers_cons_eq_ok.mp h
    rw [Entries.get?, Entries.get?, text_beq]
    split
    · rw [Option.map_some, Option.map_some, hfirst]
    · exact ih hlater

/-! ### Parts -/

theorem toJson_list_eq_ok {items : List Value} {copy : Json} :
    (list items).toJson = .ok copy ↔ ∃ copies, toJsonItems items = .ok copies ∧ copy = .array copies := by
  rw [toJson]
  cases toJsonItems items <;> simp [Except.map, eq_comm]

theorem toJson_dict_eq_ok {entries : List (Key × Value)} {copy : Json} :
    (dict entries).toJson = .ok copy ↔
      ∃ copies, toJsonMembers entries = .ok copies ∧ copy = .object copies := by
  rw [toJson]
  cases toJsonMembers entries <;> simp [Except.map, eq_comm]

theorem exists_getElem?_of_toJson {items : List Value} {copies : List Json} {i : Nat} {v : Value}
    (h : toJsonItems items = .ok copies) (hv : items[i]? = some v) :
    ∃ copy, copies[i]? = some copy ∧ v.toJson = .ok copy := by
  have hmap := congrArg (·[i]?) (map_toJson_items h)
  simp only [List.getElem?_map, hv, Option.map_some] at hmap
  obtain ⟨copy, hcopy, heq⟩ := Option.map_eq_some_iff.mp hmap.symm
  exact ⟨copy, hcopy, heq.symm⟩

/-- Under each key a value has what its copy has there. Only mappings have keys, and only they become objects. -/
theorem map_toJson_get?_of_toJson {v : Value} {copy : Json} (h : v.toJson = .ok copy) (name : Text) :
    (v.get? name).map toJson = (copy.members?.bind (Entries.get? name)).map .ok := by
  cases v with
  | dict entries =>
    obtain ⟨members, hmembers, rfl⟩ := toJson_dict_eq_ok.mp h
    exact map_toJson_get? hmembers name
  | list items | tuple items =>
    obtain ⟨copies, -, rfl⟩ := toJson_list_eq_ok.mp h
    rfl
  | bytes b | unknown => cases h
  | _ =>
    cases h
    rfl

/-- A value that has something under a key is copied to an object that has its copy there. -/
theorem exists_get?_of_toJson {v part : Value} {copy : Json} {name : Text} (h : v.toJson = .ok copy)
    (hpart : v.get? name = some part) :
    ∃ members found, copy = .object members ∧ Entries.get? name members = some found ∧
      part.toJson = .ok found := by
  have hmap := map_toJson_get?_of_toJson h name
  rw [hpart, Option.map_some] at hmap
  obtain ⟨found, hfound, heq⟩ := Option.map_eq_some_iff.mp hmap.symm
  obtain ⟨members, hmembers, hget⟩ := Option.bind_eq_some_iff.mp hfound
  cases copy with
  | object entries =>
    obtain rfl := Option.some.inj hmembers
    exact ⟨entries, found, rfl, hget, heq.symm⟩
  | _ => cases hmembers

theorem text?_of_toJson {v : Value} {copy : Json} (h : v.toJson = .ok copy) {t : Text} :
    v.text? = some t ↔ copy = .text t := by
  cases v with
  | list items | tuple items =>
    obtain ⟨copies, -, rfl⟩ := toJson_list_eq_ok.mp h
    simp [text?]
  | dict entries =>
    obtain ⟨members, -, rfl⟩ := toJson_dict_eq_ok.mp h
    simp [text?]
  | bytes b | unknown => cases h
  | _ =>
    cases h
    simp [text?]

/-! ### Values that are JSON -/

theorem ofJson_injective : Function.Injective ofJson := by
  intro v w h
  have hcopy := congrArg toJson h
  rw [toJson_ofJson, toJson_ofJson] at hcopy
  exact Except.ok.inj hcopy

theorem ofJsonItems_eq_map (items : List Json) : ofJsonItems items = items.map ofJson := by
  induction items with
  | nil => rfl
  | cons v rest ih => rw [ofJsonItems, List.map_cons, ih]

theorem get?_ofJsonMembers (members : Json.Members) (name : Text) :
    Entries.get? (.text name) (ofJsonMembers members) = (members.get? name).map ofJson := by
  induction members with
  | nil => rfl
  | cons member rest ih =>
    obtain ⟨other, v⟩ := member
    rw [ofJsonMembers, Entries.get?, Entries.get?, text_beq, ih]
    split <;> rfl

/-- Under each key of a JSON value stands what stands there in the JSON. -/
theorem get?_ofJson (v : Json) (name : Text) :
    (ofJson v).get? name = (v.members?.bind (Entries.get? name)).map ofJson := by
  cases v with
  | object members => exact get?_ofJsonMembers members name
  | _ => rfl

end Value
end DeckEdit
