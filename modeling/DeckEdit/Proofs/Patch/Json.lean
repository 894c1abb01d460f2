import DeckEdit.Proofs.Copy
import DeckEdit.Proofs.Deck.Written
import DeckEdit.Proofs.Patch.Contract

/-! What checking a candidate comes to. A candidate that is refused is refused for some issue; one that is
    accepted, and is JSON, gives operations whose changes are JSON, too, so that all of them can be carried
    out. -/

namespace DeckEdit
namespace Contract
open Checked

/-! ### Refusals -/

namespace Checked
variable {α β : Type}

/-- A refusal comes with an issue. -/
def Explained (a : Checked α) : Prop :=
  a ≠ .error []

theorem explained_ok (a : α) : Explained (.ok a) := nofun

theorem explained_refuse (place : List Segment) (violation : Violation) :
    Explained (refuse place violation : Checked α) := nofun

theorem Explained.map {a : Checked α} (h : Explained a) (f : α → β) : Explained (a.map f) := by
  cases a with
  | ok a => exact explained_ok (f a)
  | error issues =>
    intro heq
    cases heq
    exact h rfl

theorem Explained.both {a : Checked α} {b : Checked β} (ha : Explained a) (hb : Explained b) :
    Explained (both a b) := by
  cases a with
  | ok a =>
    cases b with
    | ok b => exact explained_ok (a, b)
    | error later =>
      intro heq
      cases heq
      exact hb rfl
  | error issues =>
    have hne : issues ≠ [] := fun heq => ha (congrArg Except.error heq)
    cases b with
    | ok b =>
      intro heq
      exact hne (Except.error.inj heq)
    | error later =>
      intro heq
      exact hne (List.append_eq_nil_iff.mp (Except.error.inj heq)).1

theorem explained_all {checks : List (Checked α)} (h : ∀ check ∈ checks, Explained check) :
    Explained (all checks) := by
  induction checks with
  | nil => exact explained_ok []
  | cons check checks ih =>
    have hrest := ih fun later hlater => h later (List.mem_cons_of_mem check hlater)
    exact ((h check List.mem_cons_self).both hrest).map _

end Checked

section
variable {α : Type} {check : List Segment → Value → Checked α}

theorem explained_required (h : ∀ place v, Explained (check place v)) (entries : Entries Value.Key Value)
    (place : List Segment) (name : Text) (otherNames : List Text) :
    Explained (required entries place name otherNames check) := by
  unfold required
  split
  · exact explained_refuse _ _
  · exact h _ _

theorem explained_optional (h : ∀ place v, Explained (check place v)) (entries : Entries Value.Key Value)
    (place : List Segment) (name : Text) (otherNames : List Text) :
    Explained (optional entries place name otherNames check) := by
  unfold optional
  split
  · exact explained_ok none
  · exact explained_refuse _ _
  · exact (h _ _).map some

end

theorem explained_checkText (atLeastOne : Bool) (limit : Option Nat) (place : List Segment) (v : Value) :
    Explained (checkText atLeastOne limit place v) := by
  unfold checkText
  repeat' split
  all_goals first | exact explained_refuse _ _ | exact explained_ok _

theorem explained_checkSlideIndex (place : List Segment) (v : Value) :
    Explained (checkSlideIndex place v) := by
  unfold checkSlideIndex
  repeat' split
  all_goals first | exact explained_refuse _ _ | exact explained_ok _

theorem explained_checkCoordinate (place : List Segment) (v : Value) :
    Explained (checkCoordinate place v) := by
  unfold checkCoordinate
  repeat' split
  all_goals nofun

theorem explained_checkStyle (place : List Segment) (v : Value) : Explained (checkStyle place v) := by
  unfold checkStyle
  split
  · refine explained_all fun check hcheck => ?_
    obtain ⟨⟨k, v⟩, -, rfl⟩ := List.mem_map.mp hcheck
    cases k <;> nofun
  · exact explained_refuse _ _

theorem explained_checkChange (entries : Entries Value.Key Value) (place : List Segment)
    (kind : ChangeKind) : Explained (checkChange entries place kind) := by
  cases kind with
  | setText => exact (explained_required (explained_checkText _ _) entries place _ _).map _
  | setStyle => exact (explained_required explained_checkStyle entries place _ _).map _
  | move =>
    exact ((explained_optional explained_checkCoordinate entries place _ _).both
      (explained_optional explained_checkCoordinate entries place _ _)).map _

theorem explained_checkOp (place : List Segment) (v : Value) : Explained (checkOp place v) := by
  unfold checkOp
  split
  · split
    · exact explained_refuse _ _
    · split
      · exact explained_refuse _ _
      · have hobject := explained_required (explained_checkText true none)
        have htext := explained_optional (explained_checkText true none)
        have hindex := explained_optional explained_checkSlideIndex
        exact ((hobject _ _ _ _).both ((htext _ _ _ _).both
          ((hindex _ _ _ _).both (explained_checkChange _ _ _)))).map _
  · exact explained_refuse _ _

theorem explained_checkOps (place : List Segment) (v : Value) : Explained (checkOps place v) := by
  have hitems (items : List Value) :
      Explained (all (items.mapIdx fun i v => checkOp (place ++ [.index i]) v)) := by
    refine explained_all fun check hcheck => ?_
    obtain ⟨i, hi, rfl⟩ := List.mem_mapIdx.mp hcheck
    exact explained_checkOp _ _
  unfold checkOps
  dsimp only
  repeat' split
  all_goals first | exact explained_refuse _ _ | exact hitems _

/-- A candidate that is refused violates some rule. -/
theorem explained_ofValue (candidate : Value) : Explained (Patch.ofValue candidate) := by
  unfold Patch.ofValue
  split
  · exact ((explained_required explained_checkOps _ _ _ _).both
      (explained_optional (explained_checkText false _) _ _ _ _)).map _
  · exact explained_refuse _ _

/-! ### Changes -/

variable {allowed : CodePoint → Prop} {entries : Entries Value.Key Value}

/-- What stands in a field of a JSON value is JSON. -/
theorem exists_toJson_of_field? {names : List Text} {copy : Json} {v : Value}
    (hcopy : (Value.dict entries).toJson = .ok copy) (hv : field? names entries = some v) :
    ∃ part, v.toJson = .ok part := by
  obtain ⟨name, -, hget⟩ := List.exists_of_findSome?_eq_some hv
  have hget : (Value.dict entries).get? name = some v := hget
  obtain ⟨members, part, -, -, hpart⟩ := Value.exists_get?_of_toJson hcopy hget
  exact ⟨part, hpart⟩

/-- A change that is spelled in JSON writes JSON. -/
theorem IsChange.exists_writes {change : Change} {copy : Json} (h : IsChange allowed entries change)
    (hcopy : (Value.dict entries).toJson = .ok copy) : ∃ written, change.writes = .ok written := by
  cases h with
  | setText => exact ⟨_, rfl⟩
  | setStyle word given =>
    obtain ⟨v, hv, rfl⟩ := given
    obtain ⟨part, hpart⟩ := exists_toJson_of_field? hcopy hv
    obtain ⟨written, hwritten, -⟩ := Value.toJson_dict_eq_ok.mp hpart
    exact ⟨written, hwritten⟩
  | move => exact ⟨_, rfl⟩

/-- So does every operation of a list in JSON. -/
theorem exists_writes_of_areOps {v : Value} {ops : List Op} {copy : Json} (h : AreOps allowed v ops)
    (hcopy : v.toJson = .ok copy) : ∀ op ∈ ops, ∃ written, op.change.writes = .ok written := by
  obtain ⟨items, hlist, -, -, hops⟩ := h
  obtain ⟨copies, hcopies⟩ : ∃ copies, Value.toJsonItems items = .ok copies := by
    rcases hlist with rfl | rfl
    · obtain ⟨copies, hcopies, -⟩ := Value.toJson_list_eq_ok.mp hcopy
      exact ⟨copies, hcopies⟩
    · obtain ⟨copies, hcopies, -⟩ := Value.toJson_list_eq_ok.mp hcopy
      exact ⟨copies, hcopies⟩
  intro op hop
  obtain ⟨k, hk, rfl⟩ := List.getElem_of_mem hop
  have hitem : k < items.length := hops.length_eq ▸ hk
  obtain ⟨entries, hentries, hfields⟩ : IsOp allowed items[k] ops[k] := hops.get hitem hk
  obtain ⟨part, -, hpart⟩ := Value.exists_getElem?_of_toJson hcopies (List.getElem?_eq_getElem hitem)
  rw [hentries] at hpart
  exact hfields.change.exists_writes hpart

end Contract

open Contract Checked

/-- The operations of a patch that is read from JSON can be carried out on every element. -/
theorem Patch.exists_writes_of_ofValue {candidate : Value} {copy : Json} {patch : Patch}
    (h : Patch.ofValue candidate = .ok patch) (hcopy : candidate.toJson = .ok copy) :
    ∀ op ∈ patch.ops, ∃ written, op.change.writes = .ok written := by
  cases candidate with
  | dict entries =>
    obtain ⟨⟨ops, summary⟩, hboth, rfl⟩ := map_eq_ok.mp h
    obtain ⟨v, hv, hops⟩ := (required_eq_ok accepts_checkOps).mp (both_eq_ok.mp hboth).1
    obtain ⟨part, hpart⟩ := exists_toJson_of_field? hcopy hv
    exact exists_writes_of_areOps hops hpart
  | _ => cases h

end DeckEdit
