import DeckEdit.Proofs.Deck.LastWrite

/-! What a run makes of each element: the element from before with all that was written to it, in order. -/

namespace DeckEdit

/-- An object with some of its members written over; what is no object stays. -/
def Json.overwrite (written : Json.Members) : Json → Json
  | .object members => .object (Entries.setAll written members)
  | v => v

namespace Json

theorem overwrite_nil : overwrite [] = id := by
  funext v
  cases v <;> rfl

theorem overwrite_append (first second : Json.Members) :
    overwrite (first ++ second) = overwrite second ∘ overwrite first := by
  funext v
  cases v with
  | object members => simp only [overwrite, Function.comp_apply, Entries.setAll_append]
  | _ => rfl

theorem overwrite_overwrite (written : Json.Members) :
    overwrite written ∘ overwrite written = overwrite written := by
  funext v
  cases v with
  | object members => simp only [overwrite, Function.comp_apply, Entries.setAll_setAll]
  | _ => rfl

end Json

namespace Deck
variable {locks : Value} {slides next last : List Json} {ops : List Op} {outcomes : List Outcome}

/-- What a hit writes to the element at two positions. -/
def Hit.writesAt (hit : Hit) (p q : Nat) : Json.Members :=
  if p = hit.slide ∧ q = hit.position then hit.op.change.writes.toOption.getD [] else []

/-- What several hits write to the element at two positions, in order. -/
def writesAt (hits : List Hit) (p q : Nat) : Json.Members :=
  hits.flatMap fun hit => hit.writesAt p q

theorem writesAt_cons (hit : Hit) (later : List Hit) (p q : Nat) :
    writesAt (hit :: later) p q = hit.writesAt p q ++ writesAt later p q :=
  List.flatMap_cons

theorem Touches.entryAt?_overwrite {hit : Hit} {element changed : Json.Members}
    (h : Touches slides hit element changed next) (p q : Nat) :
    entryAt? next p q = (entryAt? slides p q).map (Json.overwrite (hit.writesAt p q)) := by
  rw [h.entry, Hit.writesAt]
  split
  · rename_i hplace
    obtain ⟨slide, hslide, hfirst⟩ := h.slide
    have hentry : entryAt? slides p q = some (.object element) := by
      simp [entryAt?, hplace.1, hplace.2, objectAt?_of_findSlide? hslide, hfirst.entry]
    obtain ⟨written, hwrites, rfl⟩ := Change.apply_eq_ok.mp h.change
    simp [hentry, hwrites, Except.toOption, Json.overwrite]
  · rw [Json.overwrite_nil, Option.map_id_fun, id]

/-- An element after a run is the element from before with all that its hits wrote. -/
theorem entryAt?_of_applyOps (h : applyOps locks slides ops = .ok (last, outcomes)) (p q : Nat) :
    entryAt? last p q =
      (entryAt? slides p q).map (Json.overwrite (writesAt (hits locks slides ops) p q)) := by
  induction ops generalizing slides outcomes with
  | nil =>
    cases h
    rw [hits, writesAt, List.flatMap_nil, Json.overwrite_nil, Option.map_id_fun, id]
  | cons op rest ih =>
    obtain ⟨next, outcome, later, hstep, hrest, -⟩ := applyOps_cons_eq_ok.mp h
    rw [ih hrest, hits_cons hstep]
    rcases hstep.hit? with ⟨-, hnone, rfl⟩ | ⟨-, hit, element, changed, hsome, -, htouch⟩
    · rw [hnone, Option.toList_none, List.nil_append]
    · rw [htouch.entryAt?_overwrite, hsome, Option.map_map, ← Json.overwrite_append, ← writesAt_cons]
      rfl

end Deck
end DeckEdit
