import DeckEdit.Proofs.Lock.References
import DeckEdit.Proofs.Number.Numeral
import DeckEdit.Proofs.Patch.Wire
import DeckEdit.Proofs.Target

/-! Target keys are read back as what they were written from. The digits of an index hold no separator, so a
    key is split where its index ends, whatever the id of the element holds; and the index is read as it was
    written if it has no more digits than a numeral may have. -/

namespace DeckEdit
namespace Target
variable {locks : Value} {index : Int} {objectId : Text} {op : Op}

/-! ### Keys as they are written -/

theorem splitAt?_token (index : Int) (objectId : Text) :
    (Lock.token (Text.ofInt index) objectId).splitAt? (CodePoint.ofChar ':') =
      some (Text.ofInt index, objectId) := by
  rw [Lock.token_eq, Text.splitAt?_append (Text.notMem_ofInt rfl (by decide) index)]

/-- A target key is read back, whatever the id of the element holds. -/
theorem parse?_token (hindex : 1 ≤ index) (hdigits : (Text.ofInt index).length ≤ Numeral.maxDigits)
    (hid : objectId ≠ []) : parse? (Lock.token (Text.ofInt index) objectId) = some (index, objectId) :=
  parse?_eq_some.mpr ⟨_, splitAt?_token index objectId, hid, Numeral.integer?_ofInt hdigits, hindex⟩

theorem parse?_token_nil (index : Int) : parse? (Lock.token (Text.ofInt index) []) = none := by
  rw [parse?, splitAt?_token]
  rfl

/-- An index below one and an empty id are no target. -/
theorem parse?_token_iff (hdigits : (Text.ofInt index).length ≤ Numeral.maxDigits) :
    parse? (Lock.token (Text.ofInt index) objectId) = some (index, objectId) ↔ 1 ≤ index ∧ objectId ≠ [] := by
  constructor
  · intro h
    obtain ⟨-, -, hid, -, hindex⟩ := parse?_eq_some.mp h
    exact ⟨hindex, hid⟩
  · rintro ⟨hindex, hid⟩
    exact parse?_token hindex hdigits hid

/-- Keys that are the same were written from the same index and the same id. -/
theorem token_ofInt_inj {index' : Int} {objectId' : Text} :
    Lock.token (Text.ofInt index) objectId = Lock.token (Text.ofInt index') objectId' ↔
      index = index' ∧ objectId = objectId' := by
  have hcolon (i : Int) : CodePoint.ofChar ':' ∉ Text.ofInt i := Text.notMem_ofInt rfl (by decide) i
  rw [Lock.token_eq, Lock.token_eq, Text.append_separator_inj (hcolon index) (hcolon index'), Text.ofInt_inj]

/-- The key of a target is locked exactly if its element is, under the id that goes with the index. -/
theorem isLocked_token {idOf : Int → Option Text} (hindex : 1 ≤ index)
    (hdigits : (Text.ofInt index).length ≤ Numeral.maxDigits) :
    isLocked locks idOf (Lock.token (Text.ofInt index) objectId) =
      Lock.isLocked locks objectId (idOf index) (some index) := by
  by_cases hid : objectId = []
  · subst hid
    rw [isLocked, parse?_token_nil]
    rfl
  · rw [isLocked, parse?_token hindex hdigits hid]

/-! ### Operations of a patch -/

/-- The spelling of a slide that is not named is no numeral. -/
theorem parse?_unnamed (objectId : Text) : parse? (Lock.token Op.unnamedSlide objectId) = none := by
  have hcolon : CodePoint.ofChar ':' ∉ Op.unnamedSlide := by decide
  refine Option.eq_none_iff_forall_ne_some.mpr fun ⟨index, rest⟩ h => ?_
  obtain ⟨numeral, hsplit, -, hread, -⟩ := parse?_eq_some.mp h
  rw [Lock.token_eq, Text.splitAt?_append hcolon] at hsplit
  cases hsplit
  cases hread

/-- A patch names its elements by ids that are not empty, and its slides by indexes of two digits at most. -/
theorem named_of_mem {candidate : Value} {patch : Patch} (h : Patch.ofValue candidate = .ok patch)
    (hop : op ∈ patch.ops) : op.objectId ≠ [] ∧ ∀ index, op.slideIndex = some index →
      1 ≤ index ∧ (Text.ofInt index).length ≤ Numeral.maxDigits := by
  obtain ⟨entries, hfields⟩ := Patch.exists_hasFields h hop
  obtain ⟨v, -, -, -, hleast, -⟩ := hfields.objectId
  refine ⟨List.length_pos_iff.mp hleast, fun index hindex => ?_⟩
  -- The contract bounds an index by 20, so the bound on its digits need not be asked for.
  obtain ⟨v, -, -, -, hfirst, hlast⟩ : Contract.Omissible _ _ (some index) := hindex ▸ hfields.slideIndex
  refine ⟨hfirst, ?_⟩
  have hlength : ∀ n ≤ 20, (Text.ofNat n).length ≤ 2 := by decide
  rw [Text.ofInt, if_neg (by omega)]
  exact (hlength _ (by omega)).trans (by decide)

/-- So no operation of a patch has an index that cannot be looked up. -/
theorem check_of_mem {candidate : Value} {patch : Patch} (h : Patch.ofValue candidate = .ok patch)
    (hop : op ∈ patch.ops) (locks : Value) (objectId : Text) (slideId : Option Text) :
    Lock.check locks objectId slideId op.slideIndex =
      .ok (Lock.isLocked locks objectId slideId op.slideIndex) := by
  refine Lock.check_of_writable fun index hindex => ?_
  have hdigits := ((named_of_mem h hop).2 index hindex).2
  exact (Numeral.length_ofNat_le_iff (by decide)).mp ((Text.length_ofNat_natAbs_le index).trans hdigits)

/-- Nor does a target key have one, since a numeral of too many digits is not read. -/
theorem check_of_parse? {key : Text} (h : parse? key = some (index, objectId)) (locks : Value)
    (slideId : Option Text) : Lock.check locks objectId slideId (some index) =
      .ok (Lock.isLocked locks objectId slideId (some index)) := by
  obtain ⟨numeral, -, -, hread, -⟩ := parse?_eq_some.mp h
  refine Lock.check_of_writable ?_
  rintro i ⟨⟩
  exact Numeral.natAbs_lt_of_integer? hread

/-- The key of an index and an id is read as the two of them exactly if they are a target, that is, the index is
    at least one and the id is not empty; and no other index and id have that key. So the target key of an
    operation that gives an index is read as that index and its element, and one without an index is not
    read. -/
theorem keys_read_back :
    (∀ (index : Int) (objectId : Text), (Text.ofInt index).length ≤ Numeral.maxDigits →
      (parse? (Lock.token (Text.ofInt index) objectId) = some (index, objectId) ↔
        1 ≤ index ∧ objectId ≠ [])) ∧
    (∀ (i j : Int) (o q : Text),
      Lock.token (Text.ofInt i) o = Lock.token (Text.ofInt j) q ↔ i = j ∧ o = q) ∧
    ∀ {candidate : Value} {patch : Patch}, Patch.ofValue candidate = .ok patch → ∀ op ∈ patch.ops,
      parse? op.targetKey = op.slideIndex.map fun index => (index, op.objectId) := by
  refine ⟨fun _ _ => parse?_token_iff, fun _ _ _ _ => token_ofInt_inj, fun {candidate patch} h op hop => ?_⟩
  obtain ⟨hid, hindexes⟩ := named_of_mem h hop
  rw [Op.targetKey]
  cases hindex : op.slideIndex with
  | none => exact parse?_unnamed op.objectId
  | some index =>
    obtain ⟨hfirst, hdigits⟩ := hindexes index hindex
    exact parse?_token hfirst hdigits hid

/-- An operation on an element whose id looks like a target key, by an index that is given as 20.0. -/
def colonCandidate : Value :=
  .dict [(.text "ops", .list [.dict [(.text "op", .text "move"), (.text "objectId", .text " 7:a:"),
    (.text "slideIndex", .float (.finite false (5 * 2 ^ 50) (-48)))]])]

theorem keys_read_back_colons :
    let objectId : Text := " 7:a:"
    parse? (Lock.token (Text.ofInt 120) objectId) = some (120, objectId) ∧
      ∃ op, Patch.ofValue colonCandidate = .ok ⟨[op], none⟩ ∧ op.targetKey = "20: 7:a:" ∧
        parse? op.targetKey = some (20, objectId) := by
  intro objectId
  obtain ⟨hread, -, hops⟩ := keys_read_back
  have hpatch : Patch.ofValue colonCandidate = .ok ⟨[⟨objectId, none, some 20, .move none none⟩], none⟩ := rfl
  refine ⟨(hread 120 objectId (by decide)).mpr ⟨by decide, by decide⟩, _, hpatch, by decide, ?_⟩
  exact hops hpatch _ List.mem_cons_self

end Target
end DeckEdit
