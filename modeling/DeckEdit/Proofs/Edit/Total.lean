import DeckEdit.Proofs.Edit.Accounting
import DeckEdit.Proofs.Edit.Truncated
import DeckEdit.Proofs.Reply.Record
import DeckEdit.Proofs.Target

/-! Edits end in an answer. A document that is JSON can be copied and looked up in, a patch that is read from
    JSON writes JSON, and target keys that are texts can be told from each other; so whatever the reply says
    and whatever the locks are, there is no fault. -/

namespace DeckEdit

namespace Deck
variable (locks : Value) (slides : List Json)

/-- A step is taken if the change writes JSON. -/
theorem exists_step {op : Op} (h : ∃ written, op.change.writes = .ok written) :
    ∃ next outcome, Step locks slides op next outcome := by
  obtain ⟨written, hwritten⟩ := h
  cases hslide : findSlide? slides op with
  | none => exact ⟨_, _, .noSlide hslide⟩
  | some found =>
    obtain ⟨p, slide⟩ := found
    cases hlock : isLocked locks slide op with
    | true => exact ⟨_, _, .locked hslide hlock⟩
    | false =>
      cases helement : findElement? slide op with
      | none => exact ⟨_, _, .noElement hslide hlock helement⟩
      | some found =>
        obtain ⟨q, element⟩ := found
        have hchange : op.change.apply element = .ok _ := Change.apply_eq_ok.mpr ⟨written, hwritten, rfl⟩
        exact ⟨_, _, .applied hslide hlock helement hchange⟩

theorem exists_applyOps {ops : List Op} (h : ∀ op ∈ ops, ∃ written, op.change.writes = .ok written) :
    ∃ last outcomes, applyOps locks slides ops = .ok (last, outcomes) := by
  induction ops generalizing slides with
  | nil => exact ⟨slides, [], rfl⟩
  | cons op rest ih =>
    obtain ⟨next, outcome, hstep⟩ := exists_step locks slides (h op List.mem_cons_self)
    obtain ⟨last, later, hrest⟩ := ih next fun other hother => h other (List.mem_cons_of_mem op hother)
    exact ⟨last, outcome :: later, applyOps_cons_eq_ok.mpr ⟨next, outcome, later, hstep, hrest, rfl⟩⟩

theorem exists_apply {document : Value} {deck : Json.Members} {ops : List Op}
    (hdeck : document.toJson = .ok (.object deck))
    (h : ∀ op ∈ ops, ∃ written, op.change.writes = .ok written) :
    ∃ result, apply document locks ops = .ok result := by
  obtain ⟨last, outcomes, hrun⟩ := exists_applyOps locks (Deck.slides deck) h
  exact ⟨_, apply_eq_ok.mpr ⟨deck, last, outcomes, hdeck, hrun, rfl⟩⟩

end Deck

namespace Target

theorem firstUnhashable?_map_text (keys : List Text) :
    Value.firstUnhashable? (keys.map .text) = none := by
  induction keys with
  | nil => rfl
  | cons key rest ih =>
    rw [List.map_cons, Value.firstUnhashable?, ih]
    rfl

/-- A list of texts is a policy, whatever they are. -/
theorem Policy.ofValue_texts (keys : List Text) (slideIndex : Option Int) :
    Policy.ofValue (.list (keys.map .text)) slideIndex = .ok ⟨keys.map .text, slideIndex⟩ := by
  cases keys with
  | nil => rfl
  | cons key rest =>
    have hhashable := firstUnhashable?_map_text (key :: rest)
    rw [List.map_cons] at hhashable
    simp only [Policy.ofValue, List.map_cons, Value.isTruthy, Value.elements?, hhashable, List.isEmpty_cons,
      Bool.not_false, Bool.not_true, Bool.false_eq_true, if_false]

end Target

namespace Edit
variable {settings : Settings} {request : Request} {deck : Json.Members} {keys : List Text}

theorem exists_lockedTargets (document locks : Value) (keys : List Text) :
    ∃ targets, lockedTargets document locks (.list (keys.map .text)) = .ok targets := by
  unfold lockedTargets
  split
  · exact ⟨_, Target.locked_eq_ok.mpr ⟨keys, rfl, rfl⟩⟩
  · exact ⟨[], rfl⟩

/-- A reply that gives a patch is carried out. -/
theorem exists_report (hdeck : request.document.toJson = .ok (.object deck))
    (hkeys : request.allowed = .list (keys.map .text)) {proposal : Reply.Proposal}
    (h : Reply.parse settings request.reply = .ok proposal) :
    ∃ report, run settings request = .ok (.done report) := by
  obtain ⟨-, -, v, -, hpatch⟩ := Reply.parse_eq_ok.mp h
  have hwrites := Patch.exists_writes_of_ofValue hpatch (Value.toJson_ofJson v)
  let policy : Target.Policy := ⟨keys.map .text, request.slideIndex⟩
  have hpolicy := Target.Policy.ofValue_texts keys request.slideIndex
  have hkept := fun op hop => hwrites op ((policy.keep_sublist _).subset hop)
  obtain ⟨result, hresult⟩ := Deck.exists_apply request.locks hdeck hkept
  obtain ⟨targets, htargets⟩ := exists_lockedTargets request.document request.locks keys
  exact ⟨_, run_eq_done.mpr ⟨proposal, h, applyPatch_eq_ok.mpr
    ⟨policy, result, targets, hkeys ▸ hpolicy, hresult, hkeys ▸ htargets, rfl⟩⟩⟩

/-- An edit of a document that is JSON ends in an answer: the reply is refused, or it gives a patch, and
    then it is carried out. -/
theorem exists_answer (hdeck : request.document.toJson = .ok (.object deck))
    (hkeys : request.allowed = .list (keys.map .text)) :
    ∃ answer, run settings request = .ok answer := by
  cases hparse : Reply.parse settings request.reply with
  | error reason => exact ⟨_, run_of_parse_error hparse⟩
  | ok proposal =>
    obtain ⟨report, hreport⟩ := exists_report hdeck hkeys hparse
    exact ⟨_, hreport⟩

end Edit
end DeckEdit
