import DeckEdit.Proofs.Deck.LockCheck
import DeckEdit.Proofs.Target.Key

/-! Locks as they are reported and as they are enforced. A report reads the index out of a target key and
    looks the id of the slide up in a table; an operation finds its slide among slides that earlier ones may
    have changed. Both come to the same question about the same slide, so a target is reported as locked
    exactly if the operation on it is skipped. -/

namespace DeckEdit

namespace Target
variable {document locks : Value} {members : Json.Members} {index : Int} {objectId : Text}

/-! ### The table of slide ids -/

/-- The id under an index in a table of slide ids. -/
def idIn (ids : List (Nat × Text)) : Int → Option Text
  | .ofNat index => ids.lookup index
  | .negSucc _ => none

section
variable {α β : Type} (f : α → Option β)

/-- What the entries of a list give, each with its number. -/
def numbered (l : List α) (start : Nat) : List (Nat × β) :=
  (l.zipIdx start).filterMap fun (a, i) => (f a).map fun b => (i, b)

theorem lookup_numbered_cons (a : α) (rest : List α) (start index : Nat) :
    (numbered f (a :: rest) start).lookup index =
      if index = start then (f a).or ((numbered f rest (start + 1)).lookup index)
      else (numbered f rest (start + 1)).lookup index := by
  cases hhead : f a with
  | none => simp [numbered, hhead]
  | some b =>
    by_cases h : index = start
    · simp [numbered, hhead, h]
    · have hne : (index == start) = false := beq_eq_false_iff_ne.mpr h
      simp [numbered, hhead, List.lookup_cons, h, hne]

theorem lookup_numbered_of_lt (l : List α) {start index : Nat} (h : index < start) :
    (numbered f l start).lookup index = none := by
  induction l generalizing start with
  | nil => rfl
  | cons a rest ih => rw [lookup_numbered_cons, if_neg (Nat.ne_of_lt h), ih (Nat.lt_succ_of_lt h)]

theorem lookup_numbered (l : List α) (start position : Nat) :
    (numbered f l start).lookup (start + position) = (l[position]?).bind f := by
  induction l generalizing start position with
  | nil => rfl
  | cons a rest ih =>
    rw [lookup_numbered_cons]
    cases position with
    | zero =>
      rw [if_pos (Nat.add_zero start), Nat.add_zero, lookup_numbered_of_lt f rest (Nat.lt_succ_self start),
        Option.or_none, List.getElem?_cons_zero, Option.bind_some]
    | succ position =>
      rw [if_neg (by omega), show start + (position + 1) = start + 1 + position by omega, ih,
        List.getElem?_cons_succ]

end

/-- The id that goes with an index is the one that the table has under it. -/
theorem slideId?_eq_idIn {ids : List (Nat × Text)} (h : slideIds document = .ok ids) (index : Int) :
    slideId? document index = idIn ids index := by
  unfold slideIds at h
  unfold slideId?
  split at h
  · split at h
    · rename_i slides hslides
      cases h
      let idOf (slide : Value) := (slide.get? "id").bind Value.text?
      match index with
      | .negSucc n => rfl
      | .ofNat 0 => exact (lookup_numbered_of_lt idOf slides Nat.zero_lt_one).symm
      | .ofNat (n + 1) =>
        have hone : 1 ≤ Int.ofNat (n + 1) := Int.ofNat_le.mpr (Nat.le_add_left 1 n)
        rw [if_pos hone]
        exact (Nat.add_comm 1 n ▸ lookup_numbered idOf slides 1 n).symm
    · rename_i hnone
      cases h
      cases index <;> rfl
  · cases h

theorem slideId?_ofJson (members : Json.Members) (index : Int) :
    slideId? (.ofJson (.object members)) index =
      if 1 ≤ index then Deck.slideIdAt? (Deck.slides members) (index.toNat - 1) else none :=
  slideId?_eq (Value.toJson_ofJson _) (not_tupleSlides_ofJson _) index

theorem exists_slideIds_ofJson (members : Json.Members) :
    ∃ ids, slideIds (.ofJson (.object members)) = .ok ids := by
  rw [Value.ofJson, slideIds]
  split <;> exact ⟨_, rfl⟩

end Target

namespace Deck
open Target
variable {members slide : Json.Members} {locks : Value} {ops : List Op} {op : Op} {result : Result}

theorem slideById?_eq_none {slides : List Json}
    (h : ∀ id, op.slideId = some id → id ≠ [] → ∀ p, slideIdAt? slides p ≠ some id) :
    slideById? slides op = none := by
  refine Option.eq_none_iff_forall_ne_some.mpr fun ⟨p, slide⟩ hfound => ?_
  obtain ⟨id, hsome, hne, hfirst⟩ := slideById?_eq_some.mp hfound
  refine h id hsome hne p ?_
  rw [slideIdAt?, objectAt?_eq_some.mpr hfirst.entry]
  exact hfirst.named

/-- An operation that gives an index where an object stands, and no id that a slide has, is skipped as
    locked exactly if its target key is among the locked ones, whichever keys are asked about with it; they
    are looked up in the table of the document's slide ids. Indexes of more than `Numeral.maxDigits` digits,
    which no list of slides comes to, are left out, since no target key names one. -/
theorem locked_iff_reported (h : apply (.ofJson (.object members)) locks ops = .ok result) {k : Nat}
    {index : Int} (hop : ops[k]? = some op) (hindex : op.slideIndex = some index)
    (hslide : (slideAt? (slides members) index).isSome = true)
    (hid : ∀ id, op.slideId = some id → id ≠ [] → ∀ p, slideIdAt? (slides members) p ≠ some id)
    (hdigits : (Text.ofInt index).length ≤ Numeral.maxDigits) {targets : List Text}
    (htarget : Lock.token (Text.ofInt index) op.objectId ∈ targets) :
    ∃ ids found, lockedIn (.ofJson (.object members)) locks (targets.map .text) = .ok (ids, found) ∧
      (∀ i, slideId? (.ofJson (.object members)) i = idIn ids i) ∧
      (k ∈ result.positions .locked ↔ Lock.token (Text.ofInt index) op.objectId ∈ found) := by
  obtain ⟨⟨p, slide⟩, hat⟩ := Option.isSome_iff_exists.mp hslide
  obtain ⟨hp, hobject⟩ := slideAt?_eq_some.mp hat
  have hfind : findSlide? (slides members) op = some (p, slide) := by
    rw [findSlide?_eq, slideById?_eq_none hid, Option.none_or, hindex, Option.bind_some, hat]
  have hstopped : Stopped locks (slides members) op ↔
      Lock.isLocked locks op.objectId (id? slide) (some index) = true := by
    constructor
    · rintro ⟨q, found, hfound, hlock⟩
      cases hfind.symm.trans hfound
      rwa [hindex] at hlock
    · intro hlock
      exact ⟨p, slide, hfind, hindex ▸ hlock⟩
  have hname : slideId? (.ofJson (.object members)) index = id? slide := by
    rw [slideId?_ofJson, if_pos (by omega), show index.toNat - 1 = p by omega, slideIdAt?, hobject,
      Option.bind_some]
  obtain ⟨ids, hids⟩ := exists_slideIds_ofJson members
  have hfound : locked locks (slideId? (.ofJson (.object members))) (targets.map .text) = .ok _ :=
    locked_eq_ok.mpr ⟨targets, rfl, rfl⟩
  refine ⟨ids, _, by rw [lockedIn, hids, hfound]; rfl, slideId?_eq_idIn hids, ?_⟩
  rw [mem_positions_locked h (Value.toJson_ofJson _) hop, hstopped, List.mem_filter,
    and_iff_right htarget, isLocked_token (by omega) hdigits, hname]

/-- A deck whose slides have no id, one that is empty, and one that is no text. -/
def untitledDeck : Json.Members :=
  let elements : Json := .array [.object [(idKey, .text "a:b")]]
  [(slidesKey, .array [.object [(elementsKey, elements)],
    .object [(idKey, .text []), (elementsKey, elements)],
    .object [(idKey, .int 3), (elementsKey, elements)]])]

/-- An operation on each of the slides; the second also gives an id that no slide has. -/
def untitledOps : List Op :=
  [⟨"a:b", none, some 1, .setText "one"⟩, ⟨"a:b", some "s2", some 2, .setText "two"⟩,
    ⟨"a:b", some [], some 3, .setText "three"⟩]

theorem slideIdAt?_untitledDeck (p : Nat) : slideIdAt? (slides untitledDeck) p ≠ some "s2" :=
  match p with
  | 0 | 1 | 2 => by decide
  | _ + 3 => fun h => by cases h

/-- The second operation is skipped, and its target is reported among others; the third is not. -/
theorem locked_iff_reported_untitled :
    let locks : Value := .dict [(.text "2.a:b", .bool true)]
    let targets : List Text := ["3:a:b", "2:a:b", "2"]
    ∃ result, apply (.ofJson (.object untitledDeck)) locks untitledOps = .ok result ∧
      lockedIn (.ofJson (.object untitledDeck)) locks (targets.map .text) = .ok ([(2, [])], ["2:a:b"]) ∧
      1 ∈ result.positions .locked ∧ 2 ∉ result.positions .locked := by
  intro locks targets
  have hrun : apply (.ofJson (.object untitledDeck)) locks untitledOps = .ok _ := rfl
  have hreport : lockedIn (.ofJson (.object untitledDeck)) locks (targets.map .text) =
      .ok ([(2, [])], ["2:a:b"]) := rfl
  have hmem : Lock.token (Text.ofInt 2) "a:b" ∈ targets := by decide
  have hmem' : Lock.token (Text.ofInt 3) "a:b" ∈ targets := by decide
  obtain ⟨ids, found, hfound, -, hsecond⟩ := locked_iff_reported hrun (k := 1) rfl rfl (by decide)
    (by rintro id ⟨⟩ - p; exact slideIdAt?_untitledDeck p) (by decide) hmem
  obtain ⟨ids', found', hfound', -, hthird⟩ := locked_iff_reported hrun (k := 2) rfl rfl (by decide)
    (by rintro id ⟨⟩ hne; exact absurd rfl hne) (by decide) hmem'
  cases hreport.symm.trans hfound
  cases hreport.symm.trans hfound'
  exact ⟨_, hrun, hreport, hsecond.mpr (by decide), fun h => absurd (hthird.mp h) (by decide)⟩

end Deck
end DeckEdit
