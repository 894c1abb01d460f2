import DeckEdit.Proofs.Deck.LockReport
import DeckEdit.Proofs.Edit.Containment
import DeckEdit.Proofs.Edit.Total

/-! Target keys as the filter and as the lock report understand them. The filter compares texts: a key admits
    the operations whose target is spelled like it. The report reads the key, and reads more spellings of an
    index than the one that is printed. The two agree on the keys that write the index plainly. -/

namespace DeckEdit
namespace Target
variable {key objectId : Text} {keys : List Text} {index : Int} {op : Op}

/-! ### Keys -/

/-- The key writes the index of its slide as a plain numeral. -/
def WritesPlainly (key : Text) : Prop :=
  ∃ numeral rest, key.splitAt? (CodePoint.ofChar ':') = some (numeral, rest) ∧ Numeral.IsPlain numeral

/-- Among the keys of a target the plain one is the one that is printed. -/
theorem eq_token_iff (h : parse? key = some (index, objectId)) :
    key = Lock.token (Text.ofInt index) objectId ↔ WritesPlainly key := by
  obtain ⟨numeral, hsplit, -, hread, hindex⟩ := parse?_eq_some.mp h
  constructor
  · rintro rfl
    exact ⟨_, _, splitAt?_token index objectId, Numeral.isPlain_ofInt hindex⟩
  · rintro ⟨numeral', rest, hsplit', hplain⟩
    cases hsplit.symm.trans hsplit'
    rw [Lock.token_eq, ← (Numeral.eq_ofInt_iff_isPlain hread hindex).mpr hplain]
    exact (Text.splitAt?_eq_some.mp hsplit).2

theorem token_mem_iff (hindex : 1 ≤ index) (hdigits : (Text.ofInt index).length ≤ Numeral.maxDigits)
    (hid : objectId ≠ []) : Lock.token (Text.ofInt index) objectId ∈ keys ↔
      ∃ key ∈ keys, parse? key = some (index, objectId) ∧ WritesPlainly key := by
  constructor
  · intro hmem
    have hparse := parse?_token hindex hdigits hid
    exact ⟨_, hmem, hparse, (eq_token_iff hparse).mp rfl⟩
  · rintro ⟨key, hkey, hparse, hplain⟩
    rwa [← (eq_token_iff hparse).mpr hplain]

/-! ### Operations of a patch -/

/-- What a list of keys admits and what a lock report makes of it. An operation of a patch that gives an index
    is kept exactly if some key is read as that index and its element, and writes the index plainly; keys
    that can all be read admit no operation without an index. -/
theorem kept_iff_plain_key {candidate : Value} {patch : Patch} (h : Patch.ofValue candidate = .ok patch)
    (hop : op ∈ patch.ops) (hkeys : keys ≠ []) :
    ∃ policy, Policy.ofValue (.list (keys.map .text)) none = .ok policy ∧
      (∀ index, op.slideIndex = some index → (op ∈ policy.keep patch.ops ↔
        ∃ key ∈ keys, parse? key = some (index, op.objectId) ∧ WritesPlainly key)) ∧
      (op.slideIndex = none → (∀ key ∈ keys, (parse? key).isSome = true) → op ∉ policy.keep patch.ops) ∧
      ∀ locks idOf, ∃ found, locked locks idOf (keys.map .text) = .ok found ∧ ∀ key, key ∈ found ↔
        key ∈ keys ∧ ∃ index objectId, parse? key = some (index, objectId) ∧
          Lock.isLocked locks objectId (idOf index) (some index) = true := by
  obtain ⟨hid, hindexes⟩ := named_of_mem h hop
  have hkept : op ∈ Policy.keep ⟨keys.map .text, none⟩ patch.ops ↔ op.targetKey ∈ keys := by
    have htexts : (keys.map Value.text).filterMap Value.text? = keys := by
      rw [List.filterMap_map]
      exact List.filterMap_some
    rw [Policy.mem_keep, and_iff_right hop, Policy.admits_iff, Policy.keys, htexts]
    simp [hkeys]
  refine ⟨_, Policy.ofValue_texts keys none, fun index hindex => ?_, fun hindex hread => ?_, fun locks idOf => ?_⟩
  · obtain ⟨hfirst, hdigits⟩ := hindexes index hindex
    rw [hkept, Op.targetKey, hindex]
    exact token_mem_iff hfirst hdigits hid
  · rw [hkept, Op.targetKey, hindex]
    intro hmem
    have := hread _ hmem
    rw [Option.map_none, Option.getD_none, parse?_unnamed] at this
    cases this
  · refine ⟨_, locked_eq_ok.mpr ⟨keys, rfl, rfl⟩, fun key => ?_⟩
    rw [List.mem_filter, isLocked]
    cases parse? key with
    | none => simp
    | some target =>
      obtain ⟨index, objectId⟩ := target
      simp

def indexedOp : Op :=
  ⟨"a:b", none, some 2, .move none none⟩

def titledOp : Op :=
  ⟨"a:b", some "2", none, .move none none⟩

/-- The two of them, as a model gives them. -/
def indexedCandidate : Value :=
  .dict [(.text "ops", .list [
    .dict [(.text "op", .text "move"), (.text "slideIndex", .int 2), (.text "objectId", .text "a:b")],
    .dict [(.text "op", .text "move"), (.text "slideId", .text "2"), (.text "objectId", .text "a:b")]])]

/-- Of three keys that are read alike the last one admits the operation with the index, and none the other. -/
theorem kept_iff_plain_key_spellings :
    Patch.ofValue indexedCandidate = .ok ⟨[indexedOp, titledOp], none⟩ ∧
      ∃ policy, Policy.ofValue (.list [.text "02:a:b", .text " 2:a:b", .text "2:a:b"]) none = .ok policy ∧
        indexedOp ∈ policy.keep [indexedOp, titledOp] ∧ titledOp ∉ policy.keep [indexedOp, titledOp] := by
  have hpatch : Patch.ofValue indexedCandidate = .ok ⟨[indexedOp, titledOp], none⟩ := rfl
  let keys : List Text := ["02:a:b", " 2:a:b", "2:a:b"]
  have hne : keys ≠ [] := List.cons_ne_nil _ _
  have hread : parse? "2:a:b" = some (2, indexedOp.objectId) := by decide
  have hindexed : indexedOp ∈ [indexedOp, titledOp] := List.mem_cons_self
  have htitled : titledOp ∈ [indexedOp, titledOp] := List.mem_cons_of_mem _ List.mem_cons_self
  obtain ⟨policy, hpolicy, hkept, -, -⟩ := kept_iff_plain_key hpatch hindexed hne
  obtain ⟨policy', hpolicy', -, hnot, -⟩ := kept_iff_plain_key hpatch htitled hne
  cases hpolicy.symm.trans hpolicy'
  exact ⟨hpatch, policy, hpolicy, 
    (hkept 2 rfl).mpr ⟨"2:a:b", by simp [keys], hread, (eq_token_iff hread).mp rfl⟩, hnot rfl (by decide)⟩

/-- A key with a zero in front is read as the operation's slide and element, and does not admit it. -/
theorem zero_in_front_not_admitted : ∃ policy,
    Patch.ofValue indexedCandidate = .ok ⟨[indexedOp, titledOp], none⟩ ∧
      Policy.ofValue (.list [.text "02:a:b"]) none = .ok policy ∧ indexedOp.slideIndex = some 2 ∧
      ¬ (indexedOp ∈ policy.keep [indexedOp, titledOp] ↔
        ∃ key ∈ (["02:a:b"] : List Text), parse? key = some (2, indexedOp.objectId)) := by
  refine ⟨⟨[.text "02:a:b"], none⟩, rfl, rfl, rfl, fun h => ?_⟩
  have hread : parse? "02:a:b" = some (2, indexedOp.objectId) := by decide
  have hkept := h.mpr ⟨"02:a:b", List.mem_cons_self, hread⟩
  rw [Policy.mem_keep] at hkept
  exact absurd hkept.2 (by decide)

end Target
end DeckEdit
