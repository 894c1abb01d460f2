import DeckEdit.Entries
import Mathlib.Data.List.Nodup

/-! What a write leaves of the other keys of a map: their values, and the order of the keys. Several writes
    come to the same when they are made once more. -/

namespace DeckEdit
namespace Entries
variable {κ α : Type} [BEq κ]

/-- The keys of a map, in order. -/
def keys (entries : Entries κ α) : List κ := entries.map Prod.fst

theorem get?_append (k : κ) (first second : Entries κ α) :
    get? k (first ++ second) = (get? k first).or (get? k second) := by
  induction first with
  | nil => rfl
  | cons entry rest ih =>
    obtain ⟨l, a⟩ := entry
    by_cases h : (l == k) = true
    · simp [get?, h]
    · simp [get?, h, ih]

theorem setAll_cons (k : κ) (a : α) (writes entries : Entries κ α) :
    setAll ((k, a) :: writes) entries = setAll writes (set k a entries) := rfl

theorem setAll_append (first second entries : Entries κ α) :
    setAll (first ++ second) entries = setAll second (setAll first entries) :=
  List.foldl_append

variable [LawfulBEq κ]

theorem mem_of_get? {k : κ} {a : α} {entries : Entries κ α} (h : get? k entries = some a) :
    (k, a) ∈ entries := by
  induction entries with
  | nil => cases h
  | cons entry rest ih =>
    obtain ⟨l, b⟩ := entry
    by_cases hl : l = k
    · subst hl
      obtain rfl : b = a := by simpa [get?] using h
      exact List.mem_cons_self
    · exact List.mem_cons_of_mem _ (ih (by simpa [get?, hl] using h))

theorem get?_set_self (k : κ) (a : α) (entries : Entries κ α) : get? k (set k a entries) = some a := by
  simp [get?_set]

theorem get?_set_of_ne {k l : κ} (h : l ≠ k) (a : α) (entries : Entries κ α) :
    get? l (set k a entries) = get? l entries := by
  simp [get?_set, Ne.symm h]

/-- Writing the value that is there changes nothing. -/
theorem set_of_get? {k : κ} {a : α} {entries : Entries κ α} (h : get? k entries = some a) :
    set k a entries = entries := by
  induction entries with
  | nil => cases h
  | cons entry rest ih =>
    obtain ⟨l, b⟩ := entry
    by_cases hl : l = k
    · subst hl
      obtain rfl : b = a := by simpa [get?] using h
      simp [set]
    · have hrest : get? k rest = some a := by simpa [get?, hl] using h
      simp [set, hl, ih hrest]

/-- Of two writes under one key the later one counts. -/
theorem set_set (k : κ) (a b : α) (entries : Entries κ α) : set k b (set k a entries) = set k b entries := by
  induction entries with
  | nil => simp [set]
  | cons entry rest ih =>
    obtain ⟨l, c⟩ := entry
    by_cases hl : l = k
    · simp [set, hl]
    · simp [set, hl, ih]

theorem keys_set_of_get? {k : κ} {b : α} {entries : Entries κ α} (h : get? k entries = some b) (a : α) :
    keys (set k a entries) = keys entries := by
  simp [keys, keys_set, h]

theorem keys_set_of_none {k : κ} {entries : Entries κ α} (h : get? k entries = none) (a : α) :
    keys (set k a entries) = keys entries ++ [k] := by
  simp [keys, keys_set, h]

/-- A write never takes a key away or moves it. -/
theorem keys_prefix_set (k : κ) (a : α) (entries : Entries κ α) :
    keys entries <+: keys (set k a entries) := by
  cases h : get? k entries with
  | none =>
    exact ⟨[k], (keys_set_of_none h a).symm⟩
  | some b =>
    exact ⟨[], by rw [List.append_nil, keys_set_of_get? h]⟩

/-! ### Several writes -/

theorem isSome_get?_set {k : κ} {entries : Entries κ α} (h : (get? k entries).isSome) (l : κ) (b : α) :
    (get? k (set l b entries)).isSome := by
  rw [get?_set]
  split
  · rfl
  · exact h

/-- Writes under two keys can be exchanged if the key of one of them is there already. -/
theorem set_comm {k l : κ} (hne : k ≠ l) (a b : α) {entries : Entries κ α}
    (h : (get? k entries).isSome) : set l b (set k a entries) = set k a (set l b entries) := by
  induction entries with
  | nil => cases h
  | cons entry rest ih =>
    obtain ⟨m, c⟩ := entry
    by_cases hk : m = k
    · subst hk
      simp [set, hne]
    · by_cases hl : m = l
      · subst hl
        simp [set, hk]
      · have hrest : (get? k rest).isSome := by simpa [get?, hk] using h
        simp [set, hk, hl, ih hrest]

theorem keys_prefix_setAll (writes entries : Entries κ α) :
    keys entries <+: keys (setAll writes entries) := by
  induction writes generalizing entries with
  | nil => exact List.prefix_rfl
  | cons entry rest ih =>
    obtain ⟨k, a⟩ := entry
    exact (keys_prefix_set k a entries).trans (ih (set k a entries))

theorem get?_setAll_of_notMem {k : κ} {writes : Entries κ α} (h : k ∉ keys writes)
    (entries : Entries κ α) : get? k (setAll writes entries) = get? k entries := by
  induction writes generalizing entries with
  | nil => rfl
  | cons entry rest ih =>
    obtain ⟨l, b⟩ := entry
    obtain ⟨hne, hrest⟩ := List.ne_and_not_mem_of_not_mem_cons h
    rw [setAll_cons, ih hrest, get?_set_of_ne hne]

theorem isSome_get?_setAll {k : κ} {entries : Entries κ α} (h : (get? k entries).isSome)
    (writes : Entries κ α) : (get? k (setAll writes entries)).isSome := by
  induction writes generalizing entries with
  | nil => exact h
  | cons entry rest ih =>
    obtain ⟨l, b⟩ := entry
    rw [setAll_cons]
    exact ih (isSome_get?_set h l b)

/-- What is written under a key that is there is lost if later writes have the key, too. -/
theorem setAll_set_of_mem {k : κ} (a : α) {writes entries : Entries κ α} (hmem : k ∈ keys writes)
    (h : (get? k entries).isSome) : setAll writes (set k a entries) = setAll writes entries := by
  induction writes generalizing entries with
  | nil => cases hmem
  | cons entry rest ih =>
    obtain ⟨l, b⟩ := entry
    rw [setAll_cons, setAll_cons]
    by_cases hl : k = l
    · subst hl
      rw [set_set]
    · have hrest : k ∈ keys rest := List.mem_of_ne_of_mem hl hmem
      rw [set_comm hl a b h, ih hrest (isSome_get?_set h l b)]

/-- Several writes made a second time change nothing, also where some of them overwrite others. -/
theorem setAll_setAll (writes entries : Entries κ α) :
    setAll writes (setAll writes entries) = setAll writes entries := by
  induction writes generalizing entries with
  | nil => rfl
  | cons entry rest ih =>
    obtain ⟨k, a⟩ := entry
    simp only [setAll_cons]
    by_cases hk : k ∈ keys rest
    · -- Later writes have the key, too, so the first one is lost.
      have hthere : (get? k (set k a entries)).isSome := by simp [get?_set_self]
      rw [setAll_set_of_mem a hk (isSome_get?_setAll hthere rest), ih]
    · have hget : get? k (setAll rest (set k a entries)) = some a := by
        rw [get?_setAll_of_notMem hk, get?_set_self]
      rw [set_of_get? hget, ih]

/-! ### Maps with each key once -/

theorem isSome_get?_iff {k : κ} {entries : Entries κ α} : (get? k entries).isSome ↔ k ∈ keys entries := by
  induction entries with
  | nil => simp [get?, keys]
  | cons entry rest ih =>
    obtain ⟨l, a⟩ := entry
    by_cases hl : l = k
    · simp [get?, keys, hl]
    · simpa [get?, keys, hl, Ne.symm hl] using ih

theorem nodup_keys_set {entries : Entries κ α} (h : (keys entries).Nodup) (k : κ) (a : α) :
    (keys (set k a entries)).Nodup := by
  cases hget : get? k entries with
  | some b => rwa [keys_set_of_get? hget]
  | none =>
    have hnew : k ∉ keys entries := fun hmem => by simpa [hget] using isSome_get?_iff.mpr hmem
    rw [keys_set_of_none hget]
    simpa using h.concat hnew

theorem nodup_keys_setAll {entries : Entries κ α} (h : (keys entries).Nodup) (writes : Entries κ α) :
    (keys (setAll writes entries)).Nodup := by
  induction writes generalizing entries with
  | nil => exact h
  | cons entry rest ih => exact ih (nodup_keys_set h entry.1 entry.2)

theorem mem_set {k : κ} {a : α} {entries : Entries κ α} {entry : κ × α} (h : entry ∈ set k a entries) :
    entry = (k, a) ∨ entry ∈ entries := by
  induction entries with
  | nil => simpa [set] using h
  | cons first rest ih =>
    obtain ⟨l, b⟩ := first
    by_cases hl : l = k
    · subst hl
      rw [set, if_pos BEq.rfl] at h
      exact (List.mem_cons.mp h).imp_right (List.mem_cons_of_mem _)
    · rw [set, if_neg (by simpa using hl)] at h
      rcases List.mem_cons.mp h with rfl | h
      · exact .inr List.mem_cons_self
      · exact (ih h).imp_right (List.mem_cons_of_mem _)

theorem mem_setAll {writes entries : Entries κ α} {entry : κ × α} (h : entry ∈ setAll writes entries) :
    entry ∈ writes ∨ entry ∈ entries := by
  induction writes generalizing entries with
  | nil => exact .inr h
  | cons first rest ih =>
    rcases ih h with h | h
    · exact .inl (List.mem_cons_of_mem _ h)
    · rcases mem_set h with rfl | h
      · exact .inl List.mem_cons_self
      · exact .inr h

theorem set_of_notMem {k : κ} {entries : Entries κ α} (h : k ∉ keys entries) (a : α) :
    set k a entries = entries ++ [(k, a)] := by
  induction entries with
  | nil => rfl
  | cons entry rest ih =>
    obtain ⟨l, b⟩ := entry
    obtain ⟨hne, hrest⟩ := List.ne_and_not_mem_of_not_mem_cons h
    rw [set, if_neg (by simpa using Ne.symm hne), ih hrest, List.cons_append]

/-- Writes under keys of which none is written twice are the map that they make. -/
theorem setAll_of_nodup {writes entries : Entries κ α} (h : (keys (entries ++ writes)).Nodup) :
    setAll writes entries = entries ++ writes := by
  induction writes generalizing entries with
  | nil => exact (List.append_nil entries).symm
  | cons entry rest ih =>
    obtain ⟨k, a⟩ := entry
    have hnew : k ∉ keys entries := by
      intro hmem
      rw [keys, List.map_append, List.nodup_append] at h
      exact h.2.2 k hmem k (by simp) rfl
    rw [setAll_cons, set_of_notMem hnew, ih (by simpa using h), List.append_assoc, List.singleton_append]

theorem ofWrites_of_nodup {writes : Entries κ α} (h : (keys writes).Nodup) : ofWrites writes = writes :=
  setAll_of_nodup h

end Entries
end DeckEdit
