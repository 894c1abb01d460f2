import DeckEdit.Proofs.Copy
import DeckEdit.Proofs.Edit.Run
import DeckEdit.Proofs.Patch.Contract
import DeckEdit.Proofs.Reply
import DeckEdit.Proofs.Target.Policy
import DeckEdit.Proofs.Text

/-! A patch in its wire form is accepted again, and is the same patch. The form gives each field under the
    first of its names, and none that was left out; and what a field holds has been checked, so that it
    passes the same check in the form in which the patch keeps it. -/

namespace DeckEdit

/-! ### Fields of the wire form -/

theorem Value.get?_entry? (name other : Text) (v : Option Value) :
    Entries.get? (.text other) ( entry? name v) = if name = other then v else none := by
  cases v with
  | none => simp [Entries.get?, entry?]
  | some v => simp [Entries.get?, text_beq, entry?]

namespace Op
open Contract Entries

/-- The entries of an operation in its wire form. -/
def entries (op : Op) : Entries Value.Key Value :=
  [(.text "objectId", .text op.objectId)] ++ Value.entry? "slideId" (op.slideId.map .text) ++
    Value.entry? "slideIndex" (op.slideIndex.map .int) ++
    [(.text "op", .text op.change.kind.tag)] ++ op.change.toEntries

theorem toValue_eq (op : Op) : op.toValue = .dict op.entries := rfl

theorem get?_toEntries_of_notMem {name : Text} (h : name ∉ (["text", "style", "x", "y"] : List Text))
    (change : Change) : get? (.text name) change.toEntries = none := by
  simp only [List.mem_cons, List.not_mem_nil, or_false, not_or, eq_comm (a := name)] at h
  obtain ⟨htext, hstyle, hx, hy⟩ := h
  cases change with
  | setText => simp [Change.toEntries, get?, Value.text_beq, htext]
  | setStyle => simp [Change.toEntries, get?, Value.text_beq, hstyle]
  | move => simp [Change.toEntries, get?_append, Value.get?_entry?, hx, hy]

theorem field?_objectId (op : Op) :
    field? ["objectId", "object_id"] op.entries = some (.text op.objectId) := by
  simp [entries, field?, get?, Value.text_beq]

theorem field?_slideId (op : Op) :
    field? ["slideId", "slide_id"] op.entries = op.slideId.map .text := by
  cases h : op.slideId <;>
    simp [entries, field?, h, get?, get?_append, Value.get?_entry?, Value.text_beq, Text.ofString_inj,
      get?_toEntries_of_notMem]

theorem field?_slideIndex (op : Op) :
    field? ["slideIndex", "slide_index"] op.entries = op.slideIndex.map .int := by
  cases h : op.slideIndex <;>
    simp [entries, field?, h, get?, get?_append, Value.get?_entry?, Value.text_beq, Text.ofString_inj,
      get?_toEntries_of_notMem]

/-- Behind the fields that all operations have stand those of the change. -/
theorem field?_entries (op : Op) (name : Text)
    (h : name ∉ (["objectId", "slideId", "slideIndex", "op"] : List Text)) :
    field? [name] op.entries = get? (.text name) op.change.toEntries := by
  simp only [List.mem_cons, List.not_mem_nil, or_false, not_or, eq_comm (a := name)] at h
  simp [entries, field?, get?_append, Value.get?_entry?, Value.text_beq, get?, h]

theorem field?_op (op : Op) : field? ["op"] op.entries = some (.text op.change.kind.tag) := by
  simp [entries, field?, get?, get?_append, Value.get?_entry?, Value.text_beq, Text.ofString_inj]

end Op

namespace Contract
variable {α : Type} {allowed : CodePoint → Prop}

/-! ### Values in the form in which a patch keeps them -/

section
variable {spells : Value → α → Prop} {keep : α → Value} {field : Option Value}

/-- A check accepts also the kept form of what it accepts. -/
def Keeps (spells : Value → α → Prop) (keep : α → Value) : Prop :=
  ∀ v a, spells v a → spells (keep a) a ∧ keep a ≠ .null

theorem Given.kept (hkeep : Keeps spells keep) {a : α} (h : Given spells field a) :
    Given spells (some (keep a)) a := by
  obtain ⟨v, -, hv⟩ := h
  exact ⟨keep a, rfl, (hkeep v a hv).1⟩

theorem Omissible.kept (hkeep : Keeps spells keep) {a? : Option α} (h : Omissible spells field a?) :
    Omissible spells (a?.map keep) a? := by
  cases a? with
  | none => rfl
  | some a =>
    obtain ⟨v, -, -, hv⟩ := h
    exact ⟨keep a, rfl, (hkeep v a hv).2, (hkeep v a hv).1⟩

end

theorem keeps_isText (least : Nat) (most : Option Nat) : Keeps (IsText allowed least most) .text :=
  fun _ _ h => ⟨⟨rfl, h.2⟩, nofun⟩

theorem keeps_isSlideIndex : Keeps IsSlideIndex .int :=
  fun _ _ h => ⟨⟨.inl rfl, h.2⟩, nofun⟩

theorem keeps_isCoordinate : Keeps IsCoordinate Coordinate.toValue := by
  rintro _ _ (hfits | hfinite)
  · exact ⟨.int hfits, nofun⟩
  · exact ⟨.float hfinite, nofun⟩

theorem keeps_isStyle : Keeps IsStyle fun style => .dict (style.map fun (name, v) => (.text name, v)) :=
  fun _ _ _ => ⟨rfl, nofun⟩

/-! ### Operations -/

theorem IsChange.kept {entries : Entries Value.Key Value} {op : Op} (h : IsChange allowed entries op.change) :
    IsChange allowed op.entries op.change := by
  have hword := op.field?_op
  have hfield := op.field?_entries
  generalize op.change = change at h hword hfield
  cases h with
  | setText _ given =>
    refine .setText hword ?_
    rw [hfield _ (by simp [Text.ofString_inj])]
    exact given.kept (keeps_isText 1 _)
  | setStyle _ given =>
    refine .setStyle hword ?_
    rw [hfield _ (by simp [Text.ofString_inj])]
    exact given.kept keeps_isStyle
  | move _ hx hy =>
    refine .move hword ?_ ?_
    · rw [hfield _ (by simp [Text.ofString_inj]), Change.toEntries]
      simpa [Entries.get?_append, Value.get?_entry?, Text.ofString_inj] using hx.kept keeps_isCoordinate
    · rw [hfield _ (by simp [Text.ofString_inj]), Change.toEntries]
      simpa [Entries.get?_append, Value.get?_entry?, Text.ofString_inj] using hy.kept keeps_isCoordinate

theorem IsOp.kept {v : Value} {op : Op} (h : IsOp allowed v op) : IsOp allowed op.toValue op := by
  obtain ⟨entries, -, hobject, hslide, hindex, hchange⟩ := h
  refine ⟨op.entries, op.toValue_eq, ?_, ?_, ?_, hchange.kept⟩
  · rw [Op.field?_objectId]
    exact hobject.kept (keeps_isText 1 none)
  · rw [Op.field?_slideId]
    exact hslide.kept (keeps_isText 1 none)
  · rw [Op.field?_slideIndex]
    exact hindex.kept keeps_isSlideIndex

/-- Each operation of a list is spelled by its item. -/
theorem AreOps.exists_isOp {v : Value} {ops : List Op} {op : Op} (h : AreOps allowed v ops) (hop : op ∈ ops) :
    ∃ item, IsOp allowed item op := by
  obtain ⟨items, -, -, -, hops⟩ := h
  obtain ⟨k, hk, rfl⟩ := List.getElem_of_mem hop
  exact ⟨_, hops.get (hops.length_eq ▸ hk) hk⟩

theorem keeps_areOps : Keeps (AreOps allowed) fun ops => .list (ops.map Op.toValue) := by
  intro v ops h
  obtain ⟨items, -, hleast, hmost, hops⟩ := id h
  rw [hops.length_eq, ← List.length_map (f := Op.toValue)] at hleast hmost
  refine ⟨⟨_, .inl rfl, hleast, hmost, ?_⟩, nofun⟩
  rw [List.forall₂_map_left_iff, List.forall₂_same]
  intro op hop
  obtain ⟨item, hitem⟩ := h.exists_isOp hop
  exact hitem.kept

end Contract

/-! ### Patches -/

open Contract Checked

theorem Patch.ofValue_dict_eq_ok {entries : Entries Value.Key Value} {patch : Patch} :
    Patch.ofValue (.dict entries) = .ok patch ↔
      Given (AreOps Scalar) (field? ["ops"] entries) patch.ops ∧
        Omissible (IsText Scalar 0 (some 300)) (field? ["summary"] entries) patch.summary := by
  rw [Patch.ofValue, map_eq_ok]
  simp only [Prod.exists, both_eq_ok, required_eq_ok accepts_checkOps,
    optional_eq_ok (accepts_checkText false (some Patch.maxSummaryLength))]
  constructor
  · rintro ⟨ops, summary, hfields, rfl⟩
    exact hfields
  · intro hfields
    exact ⟨patch.ops, patch.summary, hfields, rfl⟩

/-- Each operation of a patch is spelled by some entries. -/
theorem Patch.exists_hasFields {candidate : Value} {patch : Patch} {op : Op}
    (h : Patch.ofValue candidate = .ok patch) (hop : op ∈ patch.ops) :
    ∃ entries, HasFields Scalar entries op := by
  cases candidate with
  | dict entries =>
    obtain ⟨⟨v, -, hops⟩, -⟩ := ofValue_dict_eq_ok.mp h
    obtain ⟨item, found, -, hfields⟩ := hops.exists_isOp hop
    exact ⟨found, hfields⟩
  | _ => cases h

theorem Patch.ofValue_toValue {candidate : Value} {patch : Patch} (h : Patch.ofValue candidate = .ok patch) :
    Patch.ofValue patch.toValue = .ok patch := by
  cases candidate with
  | dict entries =>
    obtain ⟨hops, hsummary⟩ := ofValue_dict_eq_ok.mp h
    rw [Patch.toValue, ofValue_dict_eq_ok]
    constructor
    · simpa [field?, Entries.get?, Value.text_beq] using hops.kept keeps_areOps
    · simpa [field?, Entries.get?, Value.text_beq, Value.get?_entry?, Text.ofString_inj] using
        hsummary.kept (keeps_isText 0 _)
  | _ => cases h

namespace Edit

theorem applyCandidate_of_ofValue {candidate : Value} {patch : Patch}
    (h : Patch.ofValue candidate = .ok patch) (document locks : Value) :
    applyCandidate document locks candidate =
      (Deck.apply document locks patch.ops).mapError .fault := by
  rw [applyCandidate, h]

theorem keep_eq_of_skipped_eq_zero {policy : Target.Policy} {ops : List Op}
    (h : (policy.filter ops).skipped = 0) : policy.keep ops = ops := by
  have hlength := policy.length_keep_add_skipped ops
  exact (policy.keep_sublist ops).eq_of_length_le (by omega)

/-- A candidate that is accepted can be replaced by the wire form of its patch: that is accepted as the same
    patch, has itself as wire form, and does the same to every deck under any locks. So the patch of an edit
    that was carried out can be kept in that form; if the policy dropped nothing of it, applying it once
    more to the same deck comes to the same. -/
theorem wire_form_replays :
    (∀ {candidate : Value} {patch : Patch}, Patch.ofValue candidate = .ok patch →
      Patch.ofValue patch.toValue = .ok patch ∧
        (Patch.ofValue patch.toValue).map Patch.toValue = .ok patch.toValue ∧
        ∀ document locks,
          applyCandidate document locks patch.toValue = applyCandidate document locks candidate) ∧
    ∀ {settings : Settings} {request : Request} {report : Report},
      run settings request = .ok (.done report) →
      Patch.ofValue report.patch.toValue = .ok report.patch ∧
        (∀ document locks, applyCandidate document locks report.patch.toValue =
          (Deck.apply document locks report.patch.ops).mapError .fault) ∧
        (report.skippedPolicy = 0 →
          applyCandidate request.document request.locks report.patch.toValue = .ok report.result) := by
  constructor
  · intro candidate patch h
    have hwire := Patch.ofValue_toValue h
    refine ⟨hwire, ?_, fun document locks => ?_⟩
    · rw [hwire]
      rfl
    · rw [applyCandidate_of_ofValue hwire, applyCandidate_of_ofValue h]
  · intro settings request report h
    obtain ⟨proposal, hparse, hpatch⟩ := run_eq_done.mp h
    obtain ⟨policy, result, targets, -, hresult, -, rfl⟩ := applyPatch_eq_ok.mp hpatch
    obtain ⟨-, -, v, -, hcandidate⟩ := Reply.parse_eq_ok.mp hparse
    have hwire := Patch.ofValue_toValue hcandidate
    refine ⟨hwire, applyCandidate_of_ofValue hwire, fun hskipped => ?_⟩
    rw [keep_eq_of_skipped_eq_zero hskipped] at hresult
    rw [applyCandidate_of_ofValue hwire, hresult]
    rfl

/-- A style with what JSON has no word for, on a slide that is given as a floating-point number, and a move
    along both axes. -/
def mixedCandidate : Value :=
  .dict [(.text "note", .unknown), (.text "ops", .tuple [
    .dict [(.text "slide_index", .float (.ofInt 2)), (.text "op", .text "set_style"),
      (.text "style", .dict [(.text "fill", .null), (.text "dash", .tuple [.int 1, .list []]),
        (.text "raw", .dict [(.int 0, .bytes [0])])]), (.text "object_id", .text "a")],
    .dict [(.text "op", .text "move"), (.text "x", .int (-1)), (.text "y", .float (.ofInt 3)),
      (.text "slideId", .text "s"), (.text "objectId", .text "a")]])]

def mixedPatch : Patch where
  ops := [
    ⟨"a", none, some 2, .setStyle [("fill", .null), ("dash", .tuple [.int 1, .list []]),
      ("raw", .dict [(.int 0, .bytes [0])])]⟩,
    ⟨"a", some "s", none, .move (some (.int (-1))) (some (.float (.ofInt 3)))⟩]
  summary := none

/-- A move of an element that the deck does not have. -/
def strayRequest : Request where
  reply := some ("Here: \x7b\"summary\": \"\", " ++
    "\"ops\": [\x7b\"op\": \"move\", \"object_id\": \"a\"\x7d]\x7d")
  document := .dict []
  locks := .null
  allowed := .null
  slideIndex := none

theorem wire_form_replays_mixed :
    Patch.ofValue mixedCandidate = .ok mixedPatch ∧
      Patch.ofValue mixedPatch.toValue = .ok mixedPatch ∧
      ∃ report, run Settings.default strayRequest = .ok (.done report) ∧
        report.patch.ops.length = 1 ∧ report.patch.summary = some [] ∧
        applyCandidate strayRequest.document .null report.patch.toValue = .ok report.result := by
  have hcandidate : Patch.ofValue mixedCandidate = .ok mixedPatch := rfl
  refine ⟨hcandidate, (wire_form_replays.1 hcandidate).1, ?_⟩
  have hany : ((report? (run Settings.default strayRequest)).any fun report =>
      report.patch.ops.length = 1 && report.patch.summary = some [] && report.skippedPolicy = 0) = true := by
    decide +kernel
  obtain ⟨report, hreport, hgiven⟩ := (Option.any_eq_true _ _).mp hany
  simp only [Bool.and_eq_true, decide_eq_true_eq] at hgiven
  obtain ⟨⟨hlength, hsummary⟩, hskipped⟩ := hgiven
  have hrun := report?_eq_some.mp hreport
  exact ⟨report, hrun, hlength, hsummary, (wire_form_replays.2 hrun).2.2 hskipped⟩

end Edit
end DeckEdit
