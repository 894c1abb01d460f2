import DeckEdit.Proofs.Copy
import DeckEdit.Proofs.Copy.Foreign
import DeckEdit.Proofs.Deck.LastWrite
import DeckEdit.Proofs.Deck.LockSafety

/-! When a batch cannot be applied. A document that cannot be copied, or whose copy is no object, is refused
    before any operation is looked at. After that only a style can be at fault, and only once its operation
    has found an element that no lock protects. -/

namespace DeckEdit

/-! ### Changes -/

namespace Change

/-- What is wrong with the first foreign part that a change would write. Only styles hold values of any
    shape. -/
def firstForeign? : Change → Option NotJson
  | setStyle style => style.findSome? fun (_, v) => v.firstForeign?
  | _ => none

/-- The change is a style with a value that has a foreign part. -/
def HasForeign : Change → Prop
  | setStyle style => ∃ key v, (key, v) ∈ style ∧ v.HasForeign
  | _ => False

theorem firstForeign?_isSome_iff {change : Change} :
    (∃ cause, change.firstForeign? = some cause) ↔ change.HasForeign := by
  cases change with
  | setStyle style =>
    rw [← Option.isSome_iff_exists, firstForeign?, List.findSome?_isSome_iff]
    simp only [Option.isSome_iff_exists, Value.firstForeign?_isSome_iff, Prod.exists, HasForeign]
  | _ => simp [firstForeign?, HasForeign]

theorem failure?_writes (change : Change) : Value.failure? change.writes = change.firstForeign? := by
  cases change with
  | setStyle style =>
    rw [writes, Value.failure?_toJsonMembers, firstForeign?]
    induction style with
    | nil => rfl
    | cons entry rest ih =>
      obtain ⟨key, v⟩ := entry
      have hkey : (Value.Part.key (.text key)).foreign? = none := rfl
      rw [List.map_cons, Value.partsOfEntries, List.findSome?_cons, hkey, List.findSome?_append, ih,
        List.findSome?_cons, ← Value.firstForeign?]
      dsimp only
      cases v.firstForeign? <;> rfl
  | _ => rfl

theorem apply_eq_error {change : Change} {element : Json.Members} {cause : NotJson} :
    change.apply element = .error cause ↔ change.firstForeign? = some cause := by
  rw [apply_eq_map_writes, ← Value.failure?_eq_some, Value.failure?_map, failure?_writes]

end Change

namespace Deck
variable {document locks : Value} {slides : List Json} {op : Op} {ops : List Op} {cause : NotJson}

/-! ### Operations -/

/-- An operation fails exactly if it finds its element, no lock stops it, and its style is foreign. -/
theorem applyOp_eq_error : applyOp locks slides op = .error cause ↔
    (∃ hit, hit? locks slides op = some hit) ∧ op.change.firstForeign? = some cause := by
  rw [applyOp, hit?]
  cases hslide : findSlide? slides op with
  | none => simp
  | some found =>
    obtain ⟨p, slide⟩ := found
    dsimp only
    by_cases hlock : isLocked locks slide op = true
    · simp [hlock]
    · rw [if_neg hlock, if_neg hlock]
      cases helement : findElement? slide op with
      | none => simp
      | some found =>
        obtain ⟨q, element⟩ := found
        dsimp only
        have hchange : op.change.apply element = .error cause ↔ _ := Change.apply_eq_error
        rw [← hchange]
        cases op.change.apply element <;> simp

/-- An operation that is locked or finds nothing is skipped, whatever it would change. -/
theorem applyOp_of_no_hit (h : hit? locks slides op = none) : ∃ outcome, outcome ≠ .applied ∧
    ∀ change, applyOp locks slides { op with change } = .ok (slides, outcome) := by
  rw [hit?] at h
  cases hslide : findSlide? slides op with
  | none => exact ⟨.missing, by decide, fun change => applyOp_eq_ok.mpr (.noSlide hslide)⟩
  | some found =>
    obtain ⟨p, slide⟩ := found
    rw [hslide] at h
    dsimp only at h
    cases hlock : isLocked locks slide op with
    | true => exact ⟨.locked, by decide, fun change => applyOp_eq_ok.mpr (.locked hslide hlock)⟩
    | false =>
      rw [hlock, if_neg Bool.false_ne_true, Option.map_eq_none_iff] at h
      exact ⟨.missing, by decide, fun change => applyOp_eq_ok.mpr (.noElement hslide hlock h)⟩

/-- The operation at a position of a batch is carried out on some element: those before it can be applied, and
    on the slides that they leave it finds an element that no lock protects. -/
def Lands (locks : Value) (slides : List Json) (ops : List Op) (k : Nat) (op : Op) : Prop :=
  ∃ before earlier hit, applyOps locks slides (ops.take k) = .ok (before, earlier) ∧ ops[k]? = some op ∧
    hit? locks before op = some hit

/-- A batch fails exactly if some operation lands whose style is foreign. There is at most one, since the ones
    after it are not carried out. -/
theorem applyOps_eq_error : applyOps locks slides ops = .error cause ↔
    ∃ k op, Lands locks slides ops k op ∧ op.change.firstForeign? = some cause := by
  induction ops generalizing slides with
  | nil =>
    refine iff_of_false nofun ?_
    rintro ⟨k, op, ⟨before, earlier, hit, -, hop, -⟩, -⟩
    simp at hop
  | cons op rest ih =>
    cases hop : applyOp locks slides op with
    | error first =>
      obtain ⟨⟨hit, hhit⟩, hforeign⟩ := applyOp_eq_error.mp hop
      have hrun : applyOps locks slides (op :: rest) = .error first := by rw [applyOps, hop]
      rw [hrun, Except.error.injEq]
      constructor
      · rintro rfl
        exact ⟨0, op, ⟨slides, [], hit, rfl, rfl, hhit⟩, hforeign⟩
      · rintro ⟨k, found, ⟨before, earlier, hit', hbefore, hfound, hhit'⟩, hforeign'⟩
        cases k with
        | zero =>
          cases hbefore
          cases hfound
          exact Option.some.inj (hforeign.symm.trans hforeign')
        | succ k =>
          obtain ⟨next, outcome, later, hstep, -, -⟩ := applyOps_cons_eq_ok.mp hbefore
          cases hop.symm.trans (applyOp_eq_ok.mpr hstep)
    | ok found =>
      obtain ⟨next, outcome⟩ := found
      have hstep := applyOp_eq_ok.mp hop
      have hrun : applyOps locks slides (op :: rest) = .error cause ↔
          applyOps locks next rest = .error cause := by
        rw [applyOps, hop]
        dsimp only
        cases applyOps locks next rest <;> simp
      rw [hrun, ih]
      constructor
      · rintro ⟨k, found, ⟨before, earlier, hit, hbefore, hfound⟩, hforeign⟩
        have hlonger : applyOps locks slides (op :: rest.take k) = .ok (before, outcome :: earlier) :=
          applyOps_cons_eq_ok.mpr ⟨next, outcome, earlier, hstep, hbefore, rfl⟩
        exact ⟨k + 1, found, ⟨before, _, hit, hlonger, hfound⟩, hforeign⟩
      · rintro ⟨k, found, ⟨before, earlier, hit, hbefore, hfound, hhit⟩, hforeign⟩
        cases k with
        | zero =>
          cases hbefore
          cases hfound
          cases hop.symm.trans (applyOp_eq_error.mpr ⟨⟨hit, hhit⟩, hforeign⟩)
        | succ k =>
          obtain ⟨next', outcome', later, hstep', hrest, -⟩ := applyOps_cons_eq_ok.mp hbefore
          cases (applyOp_eq_ok.mpr hstep').symm.trans hop
          exact ⟨k, found, ⟨before, later, hit, hrest, hfound, hhit⟩, hforeign⟩

/-! ### Documents -/

theorem kind_of_toJson {copy : Json} (h : document.toJson = .ok copy) :
    document.kind = .dict ↔ ∃ members, copy = .object members := by
  cases document with
  | dict entries =>
    obtain ⟨members, -, rfl⟩ := Value.toJson_dict_eq_ok.mp h
    exact iff_of_true rfl ⟨members, rfl⟩
  | list items | tuple items =>
    obtain ⟨copies, -, rfl⟩ := Value.toJson_list_eq_ok.mp h
    simp [Value.kind]
  | bytes b | unknown => cases h
  | _ =>
    cases h
    simp [Value.kind]

/-- What is wrong with a document that is no deck: it has a foreign part, or it is JSON and no mapping. -/
inductive NoDeck (document : Value) : Fault → Prop where
  | foreign {cause : NotJson} (first : document.firstForeign? = some cause) : NoDeck document (.notJson cause)
  | kind (json : document.firstForeign? = none) (kind : document.kind ≠ .dict) :
      NoDeck document (.notMapping document.kind)

theorem ofValue_eq_error {fault : Fault} : ofValue document = .error fault ↔ NoDeck document fault := by
  cases hcopy : document.toJson with
  | error cause =>
    have hfirst := Value.toJson_eq_error.mp hcopy
    rw [ofValue, hcopy, Except.error.injEq]
    constructor
    · rintro rfl
      exact .foreign hfirst
    · intro h
      cases h with
      | foreign first => rw [Option.some.inj (hfirst.symm.trans first)]
      | kind json => cases hfirst.symm.trans json
  | ok copy =>
    have hnone : document.firstForeign? = none := Value.exists_toJson_iff.mp ⟨copy, hcopy⟩
    have hkind := kind_of_toJson hcopy
    have hfault : ofValue document = .error fault ↔ document.kind ≠ .dict ∧ .notMapping document.kind = fault := by
      rw [Ne, hkind, ofValue, hcopy]
      cases copy <;> simp
    rw [hfault]
    constructor
    · rintro ⟨hne, rfl⟩
      exact .kind hnone hne
    · intro h
      cases h with
      | foreign first => cases hnone.symm.trans first
      | kind json kind => exact ⟨kind, rfl⟩

theorem exists_noDeck_iff :
    (∃ fault, NoDeck document fault) ↔ document.HasForeign ∨ (¬ document.HasForeign ∧ document.kind ≠ .dict) := by
  rw [← Value.firstForeign?_eq_none_iff, ← Value.firstForeign?_isSome_iff]
  constructor
  · rintro ⟨fault, h⟩
    cases h with
    | foreign first => exact Or.inl ⟨_, first⟩
    | kind json kind => exact Or.inr ⟨json, kind⟩
  · rintro (⟨cause, first⟩ | ⟨json, kind⟩)
    · exact ⟨_, .foreign first⟩
    · exact ⟨_, .kind json kind⟩

/-- A batch cannot be applied exactly if the document is no deck or an operation lands that fails; and the
    fault says which. -/
theorem apply_eq_error {fault : Fault} : apply document locks ops = .error fault ↔
    NoDeck document fault ∨ ∃ deck k op cause, document.toJson = .ok (.object deck) ∧
      Lands locks (Deck.slides deck) ops k op ∧ op.change.firstForeign? = some cause ∧
      fault = .notJson cause := by
  rw [← ofValue_eq_error]
  cases hvalue : ofValue document with
  | error first =>
    have hno (deck : Json.Members) : document.toJson ≠ .ok (.object deck) := by
      intro hdeck
      cases hvalue.symm.trans (ofValue_ok_iff.mpr ⟨deck, hdeck, rfl⟩)
    simp [apply, hvalue, hno]
  | ok start =>
    obtain ⟨deck, hdeck, -⟩ := ofValue_ok_iff.mp hvalue
    rw [apply_of_toJson hdeck]
    have hrun : (∃ cause, applyOps locks (Deck.slides deck) ops = .error cause ∧ fault = .notJson cause) ↔
        ∃ deck k op cause, document.toJson = .ok (.object deck) ∧ Lands locks (Deck.slides deck) ops k op ∧
          op.change.firstForeign? = some cause ∧ fault = .notJson cause := by
      simp only [applyOps_eq_error, hdeck, Except.ok.injEq, Json.object.injEq]
      constructor
      · rintro ⟨cause, ⟨k, op, hlands, hforeign⟩, rfl⟩
        exact ⟨deck, k, op, cause, rfl, hlands, hforeign, rfl⟩
      · rintro ⟨_, k, op, cause, rfl, hlands, hforeign, rfl⟩
        exact ⟨cause, ⟨k, op, hlands, hforeign⟩, rfl⟩
    rw [← hrun]
    cases applyOps locks (Deck.slides deck) ops <;> simp [Except.map, Except.mapError, eq_comm]

/-- Applying operations ends in a fault exactly if the document has a foreign part, or is JSON and no mapping, or
    some operation lands with a style that has a foreign part. The fault is that of the document, whatever the
    locks and the operations are, or names the first foreign part of the style. An operation that is locked or
    finds nothing is skipped, whatever its style holds. -/
theorem apply_fails_iff (document locks : Value) (ops : List Op) :
    ((∃ fault, apply document locks ops = .error fault) ↔
      document.HasForeign ∨ (¬ document.HasForeign ∧ document.kind ≠ .dict) ∨
        ∃ deck k op, document.toJson = .ok (.object deck) ∧ Lands locks (Deck.slides deck) ops k op ∧
          op.change.HasForeign) ∧
    (∀ fault, apply document locks ops = .error fault ↔ NoDeck document fault ∨
      ∃ deck k op cause, document.toJson = .ok (.object deck) ∧ Lands locks (Deck.slides deck) ops k op ∧
        op.change.firstForeign? = some cause ∧ fault = .notJson cause) ∧
    ∀ slides op, hit? locks slides op = none → ∃ outcome, outcome ≠ .applied ∧
      ∀ change, applyOp locks slides { op with change } = .ok (slides, outcome) := by
  refine ⟨?_, fun fault => apply_eq_error, fun slides op => applyOp_of_no_hit⟩
  simp only [apply_eq_error, ← or_assoc, ← exists_noDeck_iff, ← Change.firstForeign?_isSome_iff]
  constructor
  · rintro ⟨fault, h | ⟨deck, k, op, cause, hdeck, hlands, hforeign, rfl⟩⟩
    · exact Or.inl ⟨fault, h⟩
    · exact Or.inr ⟨deck, k, op, hdeck, hlands, cause, hforeign⟩
  · rintro (⟨fault, h⟩ | ⟨deck, k, op, hdeck, hlands, cause, hforeign⟩)
    · exact ⟨fault, Or.inl h⟩
    · exact ⟨_, Or.inr ⟨deck, k, op, cause, hdeck, hlands, hforeign, rfl⟩⟩

/-- Styles with foreign parts for an element that is locked, for one that is not there, for one that the third
    operation renames, and for the one that it becomes. -/
def foreignOps : List Op :=
  [⟨"title", some "s1", none, .setStyle [("a", .bytes [])]⟩,
    ⟨"gone", none, some 1, .setStyle [("a", .unknown)]⟩,
    ⟨"note", none, some 1, .setStyle [(idKey, .text "memo")]⟩,
    ⟨"note", none, some 1, .setStyle [("a", .unknown)]⟩,
    ⟨"memo", none, some 1,
      .setStyle [("a", .tuple [.int 1]), ("b", .list [.dict [(.int 3, .unknown)], .bytes []])]⟩]

/-- Only the last operation fails, with the key that stands before the value under it; on a document that has a
    foreign part itself none is looked at. -/
theorem apply_fails_iff_styles :
    let locks : Value := .list [.text "s1:title"]
    (∃ result, apply (.ofJson (.object lockedDeck)) locks (foreignOps.take 4) = .ok result ∧
      result.outcomes.map (·.2) = [.locked, .missing, .applied, .missing]) ∧
    apply (.ofJson (.object lockedDeck)) locks foreignOps = .error (.notJson (.key .int)) ∧
    apply (.dict [(.text "slides", .tuple [.null, .unknown]), (.null, .null)]) locks foreignOps =
      .error (.notJson (.part .unknown)) := by
  intro locks
  have hfound : ∃ run, applyOps locks (slides lockedDeck) (foreignOps.take 4) = .ok run ∧
      (hit? locks run.1 foreignOps[4]).isSome = true := ⟨_, rfl, rfl⟩
  obtain ⟨⟨before, earlier⟩, hrun, hhit⟩ := hfound
  obtain ⟨hit, hhit⟩ := Option.isSome_iff_exists.mp hhit
  have hlands : Lands locks (slides lockedDeck) foreignOps 4 _ := ⟨before, earlier, hit, hrun, rfl, hhit⟩
  exact ⟨⟨_, rfl, rfl⟩,
    ((apply_fails_iff _ locks foreignOps).2.1 _).mpr (.inr ⟨lockedDeck, 4, _, _, rfl, hlands, rfl, rfl⟩),
    ((apply_fails_iff _ locks foreignOps).2.1 _).mpr (.inl (.foreign rfl))⟩

end Deck
end DeckEdit
