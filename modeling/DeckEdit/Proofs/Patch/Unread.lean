import DeckEdit.Proofs.Copy
import DeckEdit.Proofs.Patch.Items
import Mathlib.Data.List.Forall2
import Mathlib.Data.List.Perm.Basic

/-! The contract looks up the keys that it names, and no others. What else stands in a candidate or in one of
    its operations, and in which order the keys come, has no part in what becomes of it. -/

namespace DeckEdit

/-- The names of the fields that only operations of a kind have. -/
def ChangeKind.names : ChangeKind → List Text
  | setText => ["text"]
  | setStyle => ["style"]
  | move => ["x", "y"]

namespace Contract
open Checked

/-! ### What is read -/

/-- The names under which a field is looked for: a name behind one that is there is not. -/
def consulted (entries : Entries Value.Key Value) : List Text → List Text
  | [] => []
  | name :: names =>
    name :: if (Entries.get? (.text name) entries).isSome then [] else consulted entries names

/-- The kind that an operation says it is of. -/
def kind? (entries : Entries Value.Key Value) : Option ChangeKind :=
  (Entries.get? (.text "op") entries).bind fun word => word.text?.bind ChangeKind.ofTag?

/-- The keys that are read of an operation: its kind, the fields that all operations have, under the first
    of their names, and the fields of its own kind. -/
def keysRead (entries : Entries Value.Key Value) : List Text :=
  [("op" : Text)] ++ consulted entries ["objectId", "object_id"] ++ consulted entries ["slideId", "slide_id"] ++
    consulted entries ["slideIndex", "slide_index"] ++ (kind? entries).elim [] ChangeKind.names

/-- Two mappings have the same value under each of the names, or both have none. -/
def Agree (names : List Text) (entries others : Entries Value.Key Value) : Prop :=
  ∀ name ∈ names, Entries.get? (.text name) entries = Entries.get? (.text name) others

/-- Two operations with the same values under the keys that are read, or the same value altogether. -/
inductive SameOp : Value → Value → Prop
  | refl (v : Value) : SameOp v v
  | dict {entries others : Entries Value.Key Value} (h : Agree (keysRead entries) entries others) :
      SameOp (.dict entries) (.dict others)

inductive SameOps : Value → Value → Prop
  | refl (v : Value) : SameOps v v
  | list {items others : List Value} (h : List.Forall₂ SameOp items others) :
      SameOps (.list items) (.list others)
  | tuple {items others : List Value} (h : List.Forall₂ SameOp items others) :
      SameOps (.tuple items) (.tuple others)

/-- Two candidates that differ in what is not read only. -/
inductive SameCandidate : Value → Value → Prop
  | refl (v : Value) : SameCandidate v v
  | dict {entries others : Entries Value.Key Value}
      (hops : Option.Rel SameOps (Entries.get? (.text "ops") entries) (Entries.get? (.text "ops") others))
      (hsummary : Agree ["summary"] entries others) : SameCandidate (.dict entries) (.dict others)

/-! ### Fields -/

variable {entries others : Entries Value.Key Value} {names : List Text}

theorem Agree.mono {fewer : List Text} (h : Agree names entries others) (hsub : fewer ⊆ names) :
    Agree fewer entries others :=
  fun name hname => h name (hsub hname)

theorem consulted_subset (entries : Entries Value.Key Value) (names : List Text) :
    consulted entries names ⊆ names := by
  induction names with
  | nil => exact List.Subset.refl []
  | cons name names ih =>
    rw [consulted]
    refine List.cons_subset_cons name ?_
    split
    · exact List.nil_subset names
    · exact ih

theorem findField?_congr (h : Agree (consulted entries names) entries others) :
    findField? names entries = findField? names others := by
  induction names with
  | nil => rfl
  | cons name names ih =>
    have hname := h name List.mem_cons_self
    rw [findField?, findField?, List.findSome?_cons, List.findSome?_cons, ← hname]
    cases hget : Entries.get? (.text name) entries with
    | some v => rfl
    | none =>
      refine ih (h.mono fun other hother => ?_)
      rw [consulted, hget]
      exact List.mem_cons_of_mem name hother

section
variable {α : Type} {check : List Segment → Value → Checked α} {name : Text} {otherNames : List Text}

theorem required_congr (h : Agree (consulted entries (name :: otherNames)) entries others)
    (place : List Segment) :
    required entries place name otherNames check = required others place name otherNames check := by
  rw [required, required, findField?_congr h]

theorem optional_congr (h : Agree (consulted entries (name :: otherNames)) entries others)
    (place : List Segment) :
    optional entries place name otherNames check = optional others place name otherNames check := by
  rw [optional, optional, findField?_congr h]

end

/-! ### Operations -/

theorem checkChange_congr {kind : ChangeKind} (h : Agree kind.names entries others) (place : List Segment) :
    checkChange entries place kind = checkChange others place kind := by
  have hfield {name : Text} (hname : name ∈ kind.names) : Agree (consulted entries [name]) entries others :=
    h.mono fun other hother => by
      rwa [List.mem_singleton.mp (consulted_subset entries [name] hother)]
  cases kind with
  | setText => rw [checkChange, checkChange, required_congr (hfield (by decide))]
  | setStyle => rw [checkChange, checkChange, required_congr (hfield (by decide))]
  | move =>
    rw [checkChange, checkChange, optional_congr (hfield (by decide)), optional_congr (hfield (by decide))]

theorem agree_keysRead :
    Agree (keysRead entries) entries others ↔
      Entries.get? (.text "op") entries = Entries.get? (.text "op") others ∧
      Agree (consulted entries ["objectId", "object_id"]) entries others ∧
      Agree (consulted entries ["slideId", "slide_id"]) entries others ∧
      Agree (consulted entries ["slideIndex", "slide_index"]) entries others ∧
      Agree ((kind? entries).elim [] ChangeKind.names) entries others := by
  simp only [Agree, keysRead, List.forall_mem_append, List.forall_mem_singleton, and_assoc]

theorem checkFields_congr {kind : ChangeKind} (h : Agree (keysRead entries) entries others)
    (hkind : kind? entries = some kind) (place : List Segment) :
    checkFields entries place kind = checkFields others place kind := by
  obtain ⟨-, hobject, hslide, hindex, hchange⟩ := agree_keysRead.mp h
  rw [hkind] at hchange
  rw [checkFields, checkFields, required_congr hobject, optional_congr hslide, optional_congr hindex,
    checkChange_congr hchange]

theorem SameOp.checkOp_eq {v w : Value} (h : SameOp v w) (place : List Segment) :
    checkOp place v = checkOp place w := by
  cases h with
  | refl => rfl
  | dict h =>
    rename_i entries others
    have hword := (agree_keysRead.mp h).1
    simp only [checkOp, ← hword]
    cases hget : Entries.get? (.text "op") entries with
    | none => rfl
    | some word =>
      dsimp only
      cases hkind : word.text?.bind ChangeKind.ofTag? with
      | none => rfl
      | some kind => exact checkFields_congr h (by rw [kind?, hget, Option.bind_some, hkind]) _

theorem mapIdx_congr {α β : Type} {R : α → α → Prop} {f : Nat → α → β} (hf : ∀ i a b, R a b → f i a = f i b)
    {xs ys : List α} (h : List.Forall₂ R xs ys) : xs.mapIdx f = ys.mapIdx f := by
  induction h generalizing f with
  | nil => rfl
  | cons hab _ ih =>
    rw [List.mapIdx_cons, List.mapIdx_cons, hf 0 _ _ hab, ih fun i => hf (i + 1)]

theorem SameOps.checkOps_eq {v w : Value} (h : SameOps v w) (place : List Segment) :
    checkOps place v = checkOps place w := by
  have hitems {items others : List Value} (hall : List.Forall₂ SameOp items others) :
      items.isEmpty = others.isEmpty ∧ items.length = others.length ∧
        (items.mapIdx fun i v => checkOp (place ++ [.index i]) v) =
          others.mapIdx fun i v => checkOp (place ++ [.index i]) v :=
    ⟨by cases hall <;> rfl, hall.length_eq, mapIdx_congr (fun i _ _ hsame => hsame.checkOp_eq _) hall⟩
  cases h with
  | refl => rfl
  | list hall | tuple hall =>
    obtain ⟨hempty, hlength, hchecks⟩ := hitems hall
    simp only [checkOps, hempty, hlength, hchecks]

/-! ### Order -/

/-- The texts among the keys of a mapping. -/
def textKeys (entries : Entries Value.Key Value) : List Text :=
  entries.filterMap fun (k, _) => k.toValue.text?

theorem get?_eq_some_iff (h : (textKeys entries).Nodup) {name : Text} {v : Value} :
    Entries.get? (.text name) entries = some v ↔ (.text name, v) ∈ entries := by
  refine ⟨Value.mem_of_get?, fun hmem => ?_⟩
  induction entries with
  | nil => cases hmem
  | cons entry rest ih =>
    obtain ⟨k, w⟩ := entry
    rcases List.mem_cons.mp hmem with heq | hlater
    · cases heq
      simp [Entries.get?, Value.text_beq]
    · have hrest : (textKeys rest).Nodup := h.sublist ((List.sublist_cons_self _ _).filterMap _)
      rw [Entries.get?, if_neg ?_, ih hrest hlater]
      intro hk
      obtain rfl := Value.eq_text_of_beq hk
      have hname : name ∈ textKeys rest := List.mem_filterMap.mpr ⟨(.text name, v), hlater, rfl⟩
      exact (List.nodup_cons.mp h).1 hname

theorem agree_of_perm (h : (textKeys entries).Nodup) (hperm : entries.Perm others) (names : List Text) :
    Agree names entries others := by
  intro name _
  have hothers : (textKeys others).Nodup := (hperm.filterMap _).nodup_iff.mp h
  refine Option.ext fun v => ?_
  rw [get?_eq_some_iff h, get?_eq_some_iff hothers, hperm.mem_iff]

theorem consulted_congr (h : Agree (consulted entries names) entries others) :
    consulted others names = consulted entries names := by
  induction names with
  | nil => rfl
  | cons name names ih =>
    have hname := h name List.mem_cons_self
    rw [consulted, consulted, ← hname]
    split
    · rfl
    · rename_i hnone
      rw [ih (h.mono fun other hother => ?_)]
      rw [consulted, if_neg hnone]
      exact List.mem_cons_of_mem name hother

theorem SameCandidate.ofValue_eq {v w : Value} (h : SameCandidate v w) : Patch.ofValue v = Patch.ofValue w := by
  cases h with
  | refl => rfl
  | dict hops hsummary =>
    rename_i entries others
    have hrequired : required entries [] "ops" [] checkOps = required others [] "ops" [] checkOps := by
      rw [required, required, findField?_singleton, findField?_singleton]
      generalize Entries.get? (.text "ops") entries = ops at hops
      generalize Entries.get? (.text "ops") others = otherOps at hops
      cases hops with
      | none => rfl
      | some hsame => exact hsame.checkOps_eq _
    rw [Patch.ofValue, Patch.ofValue, hrequired,
      optional_congr (hsummary.mono (consulted_subset entries ["summary"]))]

/-- What becomes of a candidate is told from the values under the keys that are read, and so is which keys
    those are. Hence keys that are not read can come, go and change their values, and all keys can change
    places. -/
theorem unread_ignored :
    (∀ {candidate other : Value}, SameCandidate candidate other →
      Patch.ofValue candidate = Patch.ofValue other) ∧
    (∀ {entries others : Entries Value.Key Value}, Agree (keysRead entries) entries others →
      keysRead others = keysRead entries) ∧
    ∀ {entries others : Entries Value.Key Value}, (textKeys entries).Nodup → entries.Perm others →
      SameCandidate (.dict entries) (.dict others) ∧ SameOp (.dict entries) (.dict others) := by
  refine ⟨SameCandidate.ofValue_eq, fun {entries others} h => ?_, fun {entries others} hdistinct hperm => ?_⟩
  · obtain ⟨hword, hobject, hslide, hindex, -⟩ := agree_keysRead.mp h
    have hkind : kind? others = kind? entries := by rw [kind?, kind?, hword]
    rw [keysRead, keysRead, hkind, consulted_congr hobject, consulted_congr hslide, consulted_congr hindex]
  · refine ⟨.dict ?_ (agree_of_perm hdistinct hperm _), .dict (agree_of_perm hdistinct hperm _)⟩
    rw [agree_of_perm hdistinct hperm ["ops"] "ops" List.mem_cons_self]
    cases Entries.get? (.text "ops") others with
    | none => exact .none
    | some v => exact .some (.refl v)

def plainText : Entries Value.Key Value :=
  [(.text "op", .text "set_text"), (.text "objectId", .text "a"), (.text "text", .text "t")]

/-- The same operation behind the reason for it, with a field of another kind and another id under the name
    that is not looked for. -/
def chattyText : Entries Value.Key Value :=
  [(.text "reason", .text "too long"), (.text "text", .text "t"), (.text "x", .null),
    (.text "object_id", .int 5), (.text "objectId", .text "a"), (.text "op", .text "set_text")]

def plainMove : Entries Value.Key Value :=
  [(.text "object_id", .text "b"), (.text "y", .bool true), (.text "op", .text "move")]

def plainEntries : Entries Value.Key Value :=
  [(.text "ops", .list [.dict plainText, .dict plainMove])]

def chattyEntries : Entries Value.Key Value :=
  [(.text "confidence", .int 1), (.text "ops", .list [.dict chattyText, .dict plainMove.reverse])]

theorem unread_ignored_chatty :
    SameCandidate (.dict plainEntries) (.dict chattyEntries) ∧
      Patch.ofValue (.dict chattyEntries) = .error [
        ⟨[.name "ops", .index 1, .name "move", .name "y", .name "int"], .notInteger⟩,
        ⟨[.name "ops", .index 1, .name "move", .name "y", .name "float"], .notNumber⟩] := by
  have htext : SameOp (.dict plainText) (.dict chattyText) := by
    have hread : keysRead plainText =
        ["op", "objectId", "slideId", "slide_id", "slideIndex", "slide_index", "text"] := rfl
    refine .dict ?_
    rw [hread]
    simp [Agree, plainText, chattyText, Entries.get?, Value.text_beq, Text.ofString_inj]
  have hmove : SameOp (.dict plainMove) (.dict plainMove.reverse) :=
    (unread_ignored.2.2 (by decide) plainMove.reverse_perm.symm).2
  have hsame : SameCandidate (.dict plainEntries) (.dict chattyEntries) := by
    refine .dict (.some (.list (.cons htext (.cons hmove .nil)))) ?_
    simp [Agree, plainEntries, chattyEntries, Entries.get?, Value.text_beq, Text.ofString_inj]
  exact ⟨hsame, (unread_ignored.1 hsame).symm.trans rfl⟩

end Contract
end DeckEdit
