import DeckEdit.Span

/-! The scan for a span, cut into parts. A text is level if the scan, once some pair is open, passes over
    it and stands where it stood: outside of literals and as deep as before, with a pair open all the
    way. Level texts can be put after each other and between two delimiters. -/

namespace DeckEdit
namespace Span

/-- Where the scan stands after a text; none if no pair is open somewhere on the way. -/
def walk? (pair : Pair) : Mode → Nat → Text → Option (Mode × Nat)
  | mode, depth, [] => some (mode, depth)
  | mode, depth, c :: rest =>
    match depthAfter pair mode depth c with
    | 0 => none
    | depth + 1 => walk? pair (mode.next c) (depth + 1) rest

theorem walk?_cons {pair : Pair} {mode : Mode} {depth deep : Nat} {c : CodePoint} (rest : Text)
    (h : depthAfter pair mode depth c = deep + 1) :
    walk? pair mode depth (c :: rest) = walk? pair (mode.next c) (deep + 1) rest := by
  simp [walk?, h]

theorem walk?_append {pair : Pair} {mode mode' : Mode} {depth depth' : Nat} {first : Text}
    (h : walk? pair mode depth first = some (mode', depth')) (second : Text) :
    walk? pair mode depth (first ++ second) = walk? pair mode' depth' second := by
  induction first generalizing mode depth with
  | nil =>
    cases h
    rfl
  | cons c rest ih =>
    unfold walk? at h
    split at h
    · cases h
    · rename_i deep hdeep
      rw [List.cons_append, walk?_cons _ hdeep, ih h]

/-- Where some pair stays open, the span goes on. -/
theorem closeFrom_append {pair : Pair} {mode mode' : Mode} {depth depth' : Nat} {passed : Text}
    (h : walk? pair mode depth passed = some (mode', depth')) (taken rest : Text) :
    closeFrom pair mode depth taken (passed ++ rest) =
      closeFrom pair mode' depth' (passed.reverse ++ taken) rest := by
  induction passed generalizing mode depth taken with
  | nil =>
    cases h
    rfl
  | cons c passed ih =>
    unfold walk? at h
    split at h
    · cases h
    · rename_i deep hdeep
      rw [List.cons_append, closeFrom, hdeep]
      simp only [ih h, List.reverse_cons, List.append_assoc, List.singleton_append]

/-- Where some pair stays open to the end, there is no span. -/
theorem closeFrom_eq_none {pair : Pair} {mode : Mode} {depth : Nat} {passed : Text}
    (h : (walk? pair mode depth passed).isSome) (taken : Text) :
    closeFrom pair mode depth taken passed = none := by
  obtain ⟨⟨mode', depth'⟩, hwalk⟩ := Option.isSome_iff_exists.mp h
  have hscan := closeFrom_append hwalk taken []
  rw [List.append_nil] at hscan
  rw [hscan]
  rfl

/-- A scan that passes over a text passes over its beginnings. -/
theorem isSome_walk?_of_prefix {pair : Pair} {mode : Mode} {depth : Nat} {first whole : Text}
    (hfirst : first <+: whole) (h : (walk? pair mode depth whole).isSome) :
    (walk? pair mode depth first).isSome := by
  obtain ⟨second, rfl⟩ := hfirst
  induction first generalizing mode depth with
  | nil => rfl
  | cons c rest ih =>
    rw [List.cons_append] at h
    unfold walk? at h ⊢
    split at h
    · cases h
    · exact ih h

/-! ### Level texts -/

def Level (t : Text) : Prop :=
  ∀ pair depth, 0 < depth → walk? pair .plain depth t = some (.plain, depth)

theorem Level.nil : Level [] := fun _ _ _ => rfl

theorem Level.append {first second : Text} (h : Level first) (h' : Level second) :
    Level (first ++ second) := by
  intro pair depth hdepth
  rw [walk?_append (h pair depth hdepth), h' pair depth hdepth]

/-- Neither a delimiter nor a quotation mark. -/
def Inert (c : CodePoint) : Prop :=
  c ≠ '"' ∧ ∀ pair : Pair, c ≠ pair.opening ∧ c ≠ pair.closing

theorem Inert.level {c : CodePoint} (h : Inert c) : Level [c] := by
  intro pair depth hdepth
  obtain ⟨deep, rfl⟩ := Nat.exists_eq_add_of_lt hdepth
  have hdeep : depthAfter pair .plain (0 + deep + 1) c = 0 + deep + 1 := by
    simp [depthAfter, (h.2 pair).1, (h.2 pair).2]
  rw [walk?_cons [] hdeep]
  simp [walk?, Mode.next, h.1]

theorem Pair.quote_ne (pair : Pair) : CodePoint.ofChar '"' ≠ pair.opening ∧
    CodePoint.ofChar '"' ≠ pair.closing := by
  cases pair <;> decide

theorem Pair.opening_ne_closing (pair other : Pair) : pair.opening ≠ other.closing := by
  cases pair <;> cases other <;> decide

theorem Pair.opening_injective {pair other : Pair} (h : pair.opening = other.opening) :
    pair = other := by
  revert h
  cases pair <;> cases other <;> decide

theorem Pair.closing_injective {pair other : Pair} (h : pair.closing = other.closing) :
    pair = other := by
  revert h
  cases pair <;> cases other <;> decide

theorem Mode.next_opening (pair : Pair) : Mode.plain.next pair.opening = .plain := by
  cases pair <;> decide

theorem Mode.next_closing (pair : Pair) : Mode.plain.next pair.closing = .plain := by
  cases pair <;> decide

/-- A level text between two delimiters that match. -/
theorem Level.enclose {t : Text} (h : Level t) (inner : Pair) :
    Level (inner.opening :: (t ++ [inner.closing])) := by
  intro pair depth hdepth
  by_cases hpair : inner = pair
  · subst hpair
    have hopen : depthAfter inner .plain depth inner.opening = depth + 1 := by simp [depthAfter]
    have hclose : depthAfter inner .plain (depth + 1) inner.closing = depth := by
      simp [depthAfter, Ne.symm (inner.opening_ne_closing inner)]
    obtain ⟨deep, rfl⟩ := Nat.exists_eq_add_of_lt hdepth
    rw [walk?_cons _ hopen, Mode.next_opening, walk?_append (h inner _ (by omega)), walk?_cons [] hclose,
      Mode.next_closing]
    rfl
  · obtain ⟨deep, rfl⟩ := Nat.exists_eq_add_of_lt hdepth
    have hopen : depthAfter pair .plain (0 + deep + 1) inner.opening = 0 + deep + 1 := by
      have hne : inner.opening ≠ pair.opening := fun heq => hpair (Pair.opening_injective heq)
      simp [depthAfter, hne, inner.opening_ne_closing pair]
    have hclose : depthAfter pair .plain (0 + deep + 1) inner.closing = 0 + deep + 1 := by
      have hne : inner.closing ≠ pair.closing := fun heq => hpair (Pair.closing_injective heq)
      simp [depthAfter, hne, Ne.symm (pair.opening_ne_closing inner)]
    rw [walk?_cons _ hopen, Mode.next_opening, walk?_append (h pair _ (by omega)), walk?_cons [] hclose,
      Mode.next_closing]
    rfl

end Span
end DeckEdit
