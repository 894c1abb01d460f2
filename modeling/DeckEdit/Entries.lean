/-! Finite maps that remember in which order their keys came: lists of pairs in which a look-up
    finds the first pair with the key. -/

namespace DeckEdit

/-- Pairs of a key and its value, in the order in which the keys were first written. -/
abbrev Entries (κ α : Type) := List (κ × α)

namespace Entries
variable {κ α : Type} [BEq κ]

def get? (k : κ) : Entries κ α → Option α
  | [] => none
  | (l, a) :: rest => if l == k then some a else get? k rest

/-- Writes a value under a key: in place if the key is there, and at the end if it is new. -/
def set (k : κ) (a : α) : Entries κ α → Entries κ α
  | [] => [(k, a)]
  | (l, b) :: rest => if l == k then (l, a) :: rest else (l, b) :: set k a rest

/-- A written key has the value that was written, and all other keys keep theirs. -/
theorem get?_set [LawfulBEq κ] (k l : κ) (a : α) (entries : Entries κ α) :
    get? l (set k a entries) = if k == l then some a else get? l entries := by
  induction entries with
  | nil => rfl
  | cons entry rest ih =>
    obtain ⟨m, b⟩ := entry
    by_cases hm : m = k
    · subst hm
      by_cases hl : m = l <;> simp [set, get?, hl]
    · by_cases hl : m = l
      · subst hl
        simp [set, get?, hm, Ne.symm hm]
      · simp [set, get?, hm, hl, ih]

/-- Writing to a key that is there keeps the keys and their order; a new key comes last. -/
theorem keys_set [LawfulBEq κ] (k : κ) (a : α) (entries : Entries κ α) :
    (set k a entries).map Prod.fst =
      if (get? k entries).isSome then entries.map Prod.fst else entries.map Prod.fst ++ [k] := by
  induction entries with
  | nil => rfl
  | cons entry rest ih =>
    obtain ⟨l, b⟩ := entry
    by_cases h : l = k
    · simp [set, get?, h]
    · simp only [set, get?, beq_iff_eq, h, if_false, List.map_cons, ih]
      split <;> simp

def setAll (new : Entries κ α) (old : Entries κ α) : Entries κ α :=
  new.foldl (fun entries (k, a) => set k a entries) old

/-- The map whose pairs were written in that order: of a key written twice, the first place and
    the last value. -/
def ofWrites (writes : List (κ × α)) : Entries κ α :=
  setAll writes []

end Entries
end DeckEdit
