import DeckEdit.Patch.Contract
import DeckEdit.Proofs.Patch.Spelling

/-! The contract's checks accept exactly the values that spell a patch without lone surrogates, and give
    the patch that is spelled. Where a value stands decides only what its issues say. -/

namespace DeckEdit
namespace Contract
open Checked

namespace Checked
variable {α β : Type}

theorem map_eq_ok {f : α → β} {a : Checked α} {b : β} : a.map f = .ok b ↔ ∃ x, a = .ok x ∧ f x = b := by
  cases a <;> simp [Except.map]

theorem both_eq_ok {a : Checked α} {b : Checked β} {x : α} {y : β} :
    both a b = .ok (x, y) ↔ a = .ok x ∧ b = .ok y := by
  cases a <;> cases b <;> simp [both]

theorem refuse_ne_ok {place : List Segment} {violation : Violation} {a : α} :
    refuse place violation ≠ .ok a := by
  simp [refuse]

theorem refuse_if_eq_ok {p : Prop} [Decidable p] {place : List Segment} {violation : Violation}
    {a : Checked α} {x : α} : (if p then refuse place violation else a) = .ok x ↔ ¬ p ∧ a = .ok x := by
  split <;> simp [*, refuse_ne_ok]

theorem refuse_unless_eq_ok {p : Prop} [Decidable p] {place : List Segment} {violation : Violation}
    {a : Checked α} {x : α} : (if p then a else refuse place violation) = .ok x ↔ p ∧ a = .ok x := by
  split <;> simp [*, refuse_ne_ok]

theorem all_eq_ok {checks : List (Checked α)} {results : List α} :
    all checks = .ok results ↔ List.Forall₂ (fun check a => check = .ok a) checks results := by
  induction checks generalizing results with
  | nil => simp [all, eq_comm]
  | cons check checks ih =>
    simp only [all, map_eq_ok, Prod.exists, both_eq_ok, ih, List.forall₂_cons_left_iff]
    constructor
    · rintro ⟨a, rest, ⟨ha, hrest⟩, rfl⟩
      exact ⟨a, rest, ha, hrest, rfl⟩
    · rintro ⟨a, rest, ha, hrest, rfl⟩
      exact ⟨a, rest, ⟨ha, hrest⟩, rfl⟩

theorem all_map_eq_ok {check : α → Checked β} {spell : β → α}
    (h : ∀ a b, check a = .ok b ↔ a = spell b) {xs : List α} {ys : List β} :
    all (xs.map check) = .ok ys ↔ xs = ys.map spell := by
  simp only [all_eq_ok, List.forall₂_map_left_iff, h]
  rw [← List.forall₂_map_right_iff, List.forall₂_eq_eq_eq]

/-- Checks that depend on the position only in what they say against an item. -/
theorem all_mapIdx_eq_ok {check : Nat → α → Checked β} {spells : α → β → Prop}
    (h : ∀ i a b, check i a = .ok b ↔ spells a b) {xs : List α} {ys : List β} :
    all (xs.mapIdx check) = .ok ys ↔ List.Forall₂ spells xs ys := by
  rw [all_eq_ok]
  induction xs generalizing check ys with
  | nil => simp
  | cons x xs ih =>
    rw [List.mapIdx_cons, List.forall₂_cons_left_iff, List.forall₂_cons_left_iff]
    simp only [h, ih fun i => h (i + 1)]

end Checked

/-- The check accepts what spells something, wherever it stands, and gives what is spelled. -/
def Accepts {α : Type} (check : List Segment → Value → Checked α) (spells : Value → α → Prop) : Prop :=
  ∀ place v a, check place v = .ok a ↔ spells v a

/-! ### Fields -/

section
variable {α : Type} {names : List Text} {entries : Entries Value.Key Value}

theorem field?_singleton (name : Text) : field? [name] entries = Entries.get? (.text name) entries := by
  simp [field?]

theorem field?_eq : field? names entries = (findField? names entries).map Prod.snd := by
  induction names with
  | nil => rfl
  | cons name names ih =>
    rw [field?, findField?, List.findSome?_cons, List.findSome?_cons]
    cases Entries.get? (.text name) entries with
    | none => exact ih
    | some v => rfl

variable {check : List Segment → Value → Checked α} {spells : Value → α → Prop} {name : Text}
  {otherNames : List Text}

theorem required_eq_ok (h : Accepts check spells) {place : List Segment} {a : α} :
    required entries place name otherNames check = .ok a ↔
      Given spells (field? (name :: otherNames) entries) a := by
  rw [required, field?_eq]
  cases findField? (name :: otherNames) entries with
  | none => simp [Given, refuse]
  | some found => simp [Given, h _ _ _]

theorem optional_eq_ok (h : Accepts check spells) {place : List Segment} {a? : Option α} :
    optional entries place name otherNames check = .ok a? ↔
      Omissible spells (field? (name :: otherNames) entries) a? := by
  rw [optional, field?_eq]
  cases findField? (name :: otherNames) entries with
  | none => cases a? <;> simp [Omissible]
  | some found =>
    obtain ⟨name, v⟩ := found
    by_cases hnull : v = .null
    · subst hnull
      cases a? <;> simp [Omissible, refuse]
    · cases a? <;> simp [Omissible, map_eq_ok, hnull, h _ _ _]

end

/-! ### Values -/

theorem accepts_checkText (atLeastOne : Bool) (limit : Option Nat) :
    Accepts (checkText atLeastOne limit) (IsText Scalar atLeastOne.toNat limit) := by
  intro place v t
  cases v with
  | text u =>
    have hscalar : ¬ u.any CodePoint.isSurrogate = true ↔ ∀ c ∈ u, Scalar c := by
      simp [Scalar]
    have hleast : ¬ (atLeastOne && u.isEmpty) = true ↔ atLeastOne.toNat ≤ u.length := by
      cases atLeastOne <;> cases u <;> simp
    simp only [checkText]
    rw [refuse_if_eq_ok, refuse_if_eq_ok, hscalar, hleast, IsText, Value.text.injEq]
    cases limit with
    | none =>
      constructor
      · rintro ⟨hall, hlong, ⟨⟩⟩
        exact ⟨rfl, hall, hlong, nofun⟩
      · rintro ⟨rfl, hall, hlong, -⟩
        exact ⟨hall, hlong, rfl⟩
    | some limit =>
      simp only [refuse_if_eq_ok, Nat.not_lt, Option.mem_some_iff, forall_eq']
      constructor
      · rintro ⟨hall, hlong, hshort, ⟨⟩⟩
        exact ⟨rfl, hall, hlong, hshort⟩
      · rintro ⟨rfl, hall, hlong, hshort⟩
        exact ⟨hall, hlong, hshort, rfl⟩
  | _ => simp [checkText, IsText, refuse]

theorem accepts_checkSlideIndex : Accepts checkSlideIndex IsSlideIndex := by
  intro place v i
  have hinteger : asInteger? v = some i ↔ v = .int i ∨ ∃ f, v = .float f ∧ f.value? = some (i : ℚ) := by
    cases v <;> simp [asInteger?, Binary64.toInt?_eq_some]
  rw [IsSlideIndex, ← hinteger, checkSlideIndex]
  cases asInteger? v with
  | none => simp [refuse]
  | some j =>
    have hmost : (Patch.maxSlideIndex : Int) = 20 := rfl
    simp only [refuse_if_eq_ok, Except.ok.injEq, Option.some.injEq, hmost]
    omega

theorem accepts_checkCoordinate : Accepts checkCoordinate IsCoordinate := by
  intro place v coordinate
  cases v with
  | int i =>
    rw [checkCoordinate, refuse_unless_eq_ok, Binary64.isFinite_ofInt, Except.ok.injEq]
    constructor
    · rintro ⟨hfits, rfl⟩
      exact .int hfits
    · rintro ⟨hfits⟩
      exact ⟨hfits, rfl⟩
  | float f =>
    rw [checkCoordinate, refuse_unless_eq_ok, Binary64.isFinite_iff, Except.ok.injEq]
    constructor
    · rintro ⟨⟨q, hq⟩, rfl⟩
      exact .float hq
    · rintro (_ | hq)
      exact ⟨⟨_, hq⟩, rfl⟩
  | _ => exact Iff.intro (fun h => nomatch h) (fun h => nomatch h)

theorem accepts_checkStyle : Accepts checkStyle IsStyle := by
  intro place v style
  cases v with
  | dict entries =>
    simp only [checkStyle]
    rw [all_map_eq_ok fun entry named => ?_, IsStyle, Value.dict.injEq]
    obtain ⟨k, v⟩ := entry
    cases k <;> simp [refuse, Prod.ext_iff]
  | _ => simp [checkStyle, IsStyle, refuse]

/-! ### Operations -/

theorem ofTag?_eq_some {word : Text} {kind : ChangeKind} :
    ChangeKind.ofTag? word = some kind ↔ word = Text.ofString kind.tag := by
  constructor
  · intro h
    rw [ChangeKind.ofTag?] at h
    have hword := List.find?_some h
    exact (beq_iff_eq.mp hword).symm
  · rintro rfl
    cases kind <;> rfl

theorem kind_eq_some {word : Value} {kind : ChangeKind} :
    word.text?.bind ChangeKind.ofTag? = some kind ↔ word = .text kind.tag := by
  cases word <;> simp [Value.text?, ofTag?_eq_some]

section
variable {entries : Entries Value.Key Value}

/-- The word under `op` selects the fields, and the change is of that kind. -/
theorem isChange_iff (place : ChangeKind → List Segment) {change : Change} :
    IsChange Scalar entries change ↔
      ∃ kind : ChangeKind, field? ["op"] entries = some (.text kind.tag) ∧
        checkChange entries (place kind) kind = .ok change := by
  constructor
  · rintro (⟨hword, hgiven⟩ | ⟨hword, hgiven⟩ | ⟨hword, hx, hy⟩)
    · exact ⟨.setText, hword, map_eq_ok.mpr
        ⟨_, (required_eq_ok (accepts_checkText true _)).mpr hgiven, rfl⟩⟩
    · exact ⟨.setStyle, hword, map_eq_ok.mpr
        ⟨_, (required_eq_ok accepts_checkStyle).mpr hgiven, rfl⟩⟩
    · exact ⟨.move, hword, map_eq_ok.mpr ⟨(_, _), both_eq_ok.mpr
        ⟨(optional_eq_ok accepts_checkCoordinate).mpr hx,
          (optional_eq_ok accepts_checkCoordinate).mpr hy⟩, rfl⟩⟩
  · rintro ⟨kind, hword, hcheck⟩
    cases kind with
    | setText =>
      obtain ⟨text, htext, rfl⟩ := map_eq_ok.mp hcheck
      exact .setText hword ((required_eq_ok (accepts_checkText true _)).mp htext)
    | setStyle =>
      obtain ⟨style, hstyle, rfl⟩ := map_eq_ok.mp hcheck
      exact .setStyle hword ((required_eq_ok accepts_checkStyle).mp hstyle)
    | move =>
      obtain ⟨⟨x, y⟩, hboth, rfl⟩ := map_eq_ok.mp hcheck
      obtain ⟨hx, hy⟩ := both_eq_ok.mp hboth
      exact .move hword ((optional_eq_ok accepts_checkCoordinate).mp hx)
        ((optional_eq_ok accepts_checkCoordinate).mp hy)

theorem checkFields_eq_ok {place : List Segment} {kind : ChangeKind} {op : Op} :
    checkFields entries place kind = .ok op ↔
      Given (IsText Scalar 1 none) (field? ["objectId", "object_id"] entries) op.objectId ∧
      Omissible (IsText Scalar 1 none) (field? ["slideId", "slide_id"] entries) op.slideId ∧
      Omissible IsSlideIndex (field? ["slideIndex", "slide_index"] entries) op.slideIndex ∧
      checkChange entries place kind = .ok op.change := by
  rw [checkFields, map_eq_ok]
  simp only [Prod.exists, both_eq_ok, required_eq_ok (accepts_checkText true none),
    optional_eq_ok (accepts_checkText true none), optional_eq_ok accepts_checkSlideIndex]
  constructor
  · rintro ⟨_, _, _, _, hfields, rfl⟩
    exact hfields
  · intro hfields
    exact ⟨_, _, _, _, hfields, rfl⟩

theorem hasFields_iff (place : ChangeKind → List Segment) {op : Op} :
    HasFields Scalar entries op ↔
      ∃ kind : ChangeKind, field? ["op"] entries = some (.text kind.tag) ∧
        checkFields entries (place kind) kind = .ok op := by
  constructor
  · rintro ⟨hobject, hslide, hindex, hchange⟩
    obtain ⟨kind, hword, hcheck⟩ := (isChange_iff place).mp hchange
    exact ⟨kind, hword, checkFields_eq_ok.mpr ⟨hobject, hslide, hindex, hcheck⟩⟩
  · rintro ⟨kind, hword, hfields⟩
    obtain ⟨hobject, hslide, hindex, hcheck⟩ := checkFields_eq_ok.mp hfields
    exact ⟨hobject, hslide, hindex, (isChange_iff place).mpr ⟨kind, hword, hcheck⟩⟩

end

theorem accepts_checkOp : Accepts checkOp (IsOp Scalar) := by
  intro place v op
  cases v with
  | dict entries =>
    have hop : IsOp Scalar (.dict entries) op ↔ HasFields Scalar entries op := by simp [IsOp]
    rw [hop, hasFields_iff fun kind => place ++ [.name (Text.ofString kind.tag)], field?_singleton]
    simp only [checkOp]
    cases Entries.get? (.text "op") entries with
    | none => simp [refuse]
    | some word =>
      simp only [Option.some.injEq, ← kind_eq_some]
      cases word.text?.bind ChangeKind.ofTag? with
      | none => simp [refuse]
      | some kind => simp
  | _ => simp [checkOp, IsOp, refuse]

theorem accepts_checkOps : Accepts checkOps (AreOps Scalar) := by
  intro place v ops
  have hmost : Patch.maxOps = 50 := rfl
  have hleast : ∀ items : List Value, ¬ items = [] ↔ 1 ≤ items.length :=
    fun _ => List.length_pos_iff.symm
  have hops : ∀ items : List Value,
      all (items.mapIdx fun i v => checkOp (place ++ [.index i]) v) = .ok ops ↔
        List.Forall₂ (IsOp Scalar) items ops :=
    fun items => all_mapIdx_eq_ok fun i v op => accepts_checkOp _ v op
  cases v with
  | list items => simp [checkOps, AreOps, refuse_if_eq_ok, hmost, hleast, hops]
  | tuple items => simp [checkOps, AreOps, refuse_if_eq_ok, hmost, hleast, hops]
  | _ => simp [checkOps, AreOps, refuse]

end Contract

open Contract Checked

/-- The contract accepts exactly the candidates that spell a patch in texts without lone surrogates, and gives
    the patch that is spelled. -/
theorem Patch.ofValue_eq_ok {candidate : Value} {patch : Patch} :
    Patch.ofValue candidate = .ok patch ↔ Spells Scalar candidate patch := by
  cases candidate with
  | dict entries =>
    simp only [Patch.ofValue, map_eq_ok, Prod.exists, both_eq_ok, required_eq_ok accepts_checkOps,
      optional_eq_ok (accepts_checkText false (some Patch.maxSummaryLength)), Spells, Value.dict.injEq]
    constructor
    · rintro ⟨ops, summary, hfields, rfl⟩
      exact ⟨entries, rfl, hfields⟩
    · rintro ⟨_, rfl, hfields⟩
      exact ⟨_, _, hfields, rfl⟩
  | _ => simp [Patch.ofValue, Spells, refuse]

-- The other names, a tuple, and an index given as a floating-point number.
example : Patch.ofValue (.dict [(.text "ops", .tuple [.dict [(.text "object_id", .text "a"),
      (.text "slide_index", .float (.ofInt 2)), (.text "op", .text "move")]])]) =
    .ok ⟨[⟨"a", none, some 2, .move none none⟩], none⟩ := rfl

namespace Contract

/-- Half of a surrogate pair as a new text. -/
def halfPair : Text :=
  [CodePoint.ofNat 0xD800]

def halfPairEntries : Entries Value.Key Value :=
  [(.text "op", .text "set_text"), (.text "objectId", .text "a"), (.text "text", .text halfPair)]

def halfPairOp : Op :=
  ⟨"a", none, none, .setText halfPair⟩

/-- But for the lone surrogate the candidate spells a patch, and that is what it is refused for. -/
theorem half_pair_refused :
    Spells (fun _ => True) (.dict [(.text "ops", .list [.dict halfPairEntries])]) ⟨[halfPairOp], none⟩ ∧
      Patch.ofValue (.dict [(.text "ops", .list [.dict halfPairEntries])]) =
        .error [⟨[.name "ops", .index 0, .name "set_text", .name "text"], .surrogateInText⟩] := by
  have hop : HasFields (fun _ => True) halfPairEntries halfPairOp := {
    objectId := ⟨_, rfl, rfl, fun _ _ => trivial, by decide, nofun⟩
    slideId := rfl
    slideIndex := rfl
    change := .setText rfl ⟨_, rfl, rfl, fun _ _ => trivial, by decide, by decide⟩ }
  exact ⟨⟨_, rfl, ⟨_, rfl, _, .inl rfl, by decide, by decide, .cons ⟨_, rfl, hop⟩ .nil⟩, rfl⟩, rfl⟩

end Contract
end DeckEdit
