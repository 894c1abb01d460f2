import DeckEdit.Proofs.Edit.Run
import DeckEdit.Proofs.Target
import DeckEdit.Proofs.Text.Sorted

/-! An edit of a document and one of its copy. Operations are applied to the copy in either case. Only the
    targets that the user asked for are looked up in the document itself; there slides in a tuple have no ids,
    and the copy has them in a list. So a target that is locked under the id of its slide alone is overlooked. -/

namespace DeckEdit

theorem Deck.apply_copy {document locks : Value} {deck : Json.Members} {ops : List Op} {result : Result}
    (hdeck : document.toJson = .ok (.object deck)) (h : apply document locks ops = .ok result) :
    apply (.ofJson (.object deck)) locks ops = .ok result := by
  obtain ⟨deck', last, outcomes, hdeck', hrun, rfl⟩ := apply_eq_ok.mp h
  cases hdeck.symm.trans hdeck'
  exact apply_eq_ok.mpr ⟨deck, last, outcomes, Value.toJson_ofJson _, hrun, rfl⟩

namespace Edit
open Target
variable {settings : Settings} {request : Request} {report : Report} {deck : Json.Members} {key : Text}

/-- The request for the copy of a document. -/
def Request.onCopy (request : Request) (deck : Json.Members) : Request :=
  { request with document := .ofJson (.object deck) }

/-! ### Targets -/

/-- The user asked for the element, and slides in a tuple hide that it is locked: it is so under the id of its
    slide, and not under the index. -/
structure Overlooked (request : Request) (deck : Json.Members) (key : Text) : Prop where
  given : request.allowed.isTruthy = true
  requested : .text key ∈ request.allowed.elements?.getD []
  tuple : TupleSlides request.document
  locked : ∃ (p : Nat) (objectId : Text), parse? key = some ((p : Int) + 1, objectId) ∧
    Lock.isLocked request.locks objectId (Deck.slideIdAt? (Deck.slides deck) p) none = true ∧
    Lock.isLocked request.locks objectId none (some ((p : Int) + 1)) = false

/-- On the copy of a document that has its slides in a tuple the same targets are locked, and those that are
    overlooked on the document. -/
theorem isLocked_copy_iff {p : Nat} {objectId : Text} (htuple : TupleSlides request.document)
    (hparse : parse? key = some ((p : Int) + 1, objectId)) :
    isLocked request.locks (slideId? (.ofJson (.object deck))) key = true ↔
      isLocked request.locks (slideId? request.document) key = true ∨
        (Lock.isLocked request.locks objectId (Deck.slideIdAt? (Deck.slides deck) p) none = true ∧
          Lock.isLocked request.locks objectId none (some ((p : Int) + 1)) = false) := by
  have hid : slideId? (.ofJson (.object deck)) ((p : Int) + 1) = Deck.slideIdAt? (Deck.slides deck) p := by
    rw [slideId?_eq (Value.toJson_ofJson _) (not_tupleSlides_ofJson _), if_pos (by omega),
      show ((p : Int) + 1).toNat - 1 = p by omega]
  rw [isLocked, isLocked, hparse]
  dsimp only
  rw [hid, slideId?_of_tuple htuple, Lock.isLocked_eq_or request.locks objectId (Deck.slideIdAt? _ p)]
  cases Lock.isLocked request.locks objectId (Deck.slideIdAt? (Deck.slides deck) p) none <;>
    cases Lock.isLocked request.locks objectId none (some ((p : Int) + 1)) <;> simp

theorem exists_lockedTargets_copy (hdeck : request.document.toJson = .ok (.object deck)) {targets : List Text}
    (h : lockedTargets request.document request.locks request.allowed = .ok targets) :
    ∃ more, lockedTargets (.ofJson (.object deck)) request.locks request.allowed = .ok more ∧
      ∀ key, key ∈ more ↔ key ∈ targets ∨ Overlooked request deck key := by
  rcases lockedTargets_eq_ok.mp h with ⟨hfalse, rfl⟩ | ⟨htrue, keys, hkeys, rfl⟩
  · refine ⟨[], lockedTargets_eq_ok.mpr (.inl ⟨hfalse, rfl⟩), fun key => ?_⟩
    have hnot : ¬ Overlooked request deck key := fun hover => by
      cases hfalse.symm.trans hover.given
    simp [hnot]
  · refine ⟨_, lockedTargets_eq_ok.mpr (.inr ⟨htrue, keys, hkeys, rfl⟩), fun key => ?_⟩
    have hrequested : .text key ∈ request.allowed.elements?.getD [] ↔ key ∈ keys := by
      rw [hkeys, List.mem_map_of_injective fun _ _ => Value.text.inj]
    rw [List.mem_filter, List.mem_filter]
    by_cases htuple : TupleSlides request.document
    · constructor
      · rintro ⟨hkey, hlocked⟩
        obtain ⟨p, objectId, hparse⟩ := exists_parse?_of_isLocked hlocked
        rcases (isLocked_copy_iff htuple hparse).mp hlocked with hlocked | hover
        · exact Or.inl ⟨hkey, hlocked⟩
        · exact Or.inr ⟨htrue, hrequested.mpr hkey, htuple, p, objectId, hparse, hover⟩
      · rintro (⟨hkey, hlocked⟩ | ⟨-, hkey, -, p, objectId, hparse, hover⟩)
        · obtain ⟨p, objectId, hparse⟩ := exists_parse?_of_isLocked hlocked
          exact ⟨hkey, (isLocked_copy_iff htuple hparse).mpr (.inl hlocked)⟩
        · exact ⟨hrequested.mp hkey, (isLocked_copy_iff htuple hparse).mpr (.inr hover)⟩
    · have hsame : slideId? request.document = slideId? (.ofJson (.object deck)) := by
        funext index
        rw [slideId?_eq hdeck htuple, slideId?_eq (Value.toJson_ofJson _) (not_tupleSlides_ofJson _)]
      have hnot : ¬ Overlooked request deck key := fun hover => htuple hover.tuple
      simp only [hsame, hnot, or_false]

theorem Overlooked.notMem_lockedTargets (h : Overlooked request deck key) {targets : List Text}
    (htargets : lockedTargets request.document request.locks request.allowed = .ok targets) : key ∉ targets := by
  intro hkey
  obtain ⟨p, objectId, hparse, -, hindex⟩ := h.locked
  have hlocked := mem_lockedTargets htargets hkey
  rw [isLocked, hparse] at hlocked
  dsimp only at hlocked
  rw [slideId?_of_tuple h.tuple, hindex] at hlocked
  cases hlocked

/-! ### Reports -/

/-- An edit of a document is that of its copy but for the targets that are reported as blocked, to which those
    are added on the copy that the document overlooks. So the two are the same exactly if each of these is the
    token of some locked operation, and they are so if the slides are not in a tuple. -/
theorem same_on_copy_iff (h : run settings request = .ok (.done report)) :
    ∃ deck report', request.document.toJson = .ok (.object deck) ∧
      run settings (request.onCopy deck) = .ok (.done report') ∧
      report'.patch = report.patch ∧ report'.result = report.result ∧
      report'.skippedPolicy = report.skippedPolicy ∧
      (∀ key, key ∈ report'.blocked ↔ key ∈ report.blocked ∨ Overlooked request deck key) ∧
      (report' = report ↔ ∀ key, Overlooked request deck key →
        ∃ op ∈ report.result.opsWith .locked, op.reportToken = key) ∧
      (¬ TupleSlides request.document → report' = report) := by
  obtain ⟨proposal, hparse, hpatch⟩ := run_eq_done.mp h
  obtain ⟨policy, result, targets, hpolicy, hresult, htargets, rfl⟩ := applyPatch_eq_ok.mp hpatch
  obtain ⟨deck, -, -, hdeck, -, -⟩ := Deck.apply_eq_ok.mp hresult
  obtain ⟨more, hmore, hmem⟩ := exists_lockedTargets_copy hdeck htargets
  have hcopy : run settings (request.onCopy deck) = .ok (.done _) := run_eq_done.mpr ⟨proposal, hparse,
    applyPatch_eq_ok.mpr ⟨policy, result, more, hpolicy, Deck.apply_copy hdeck hresult, hmore, rfl⟩⟩
  have hblocked (key : Text) : key ∈ (result.opsWith .locked).map Op.reportToken ++ more ↔
      key ∈ (result.opsWith .locked).map Op.reportToken ++ targets ∨ Overlooked request deck key := by
    rw [List.mem_append, List.mem_append, hmem, or_assoc]
  have hsame : (∀ key, key ∈ (result.opsWith .locked).map Op.reportToken ++ more ↔
      key ∈ (result.opsWith .locked).map Op.reportToken ++ targets) ↔
        ∀ key, Overlooked request deck key → ∃ op ∈ result.opsWith .locked, op.reportToken = key := by
    refine forall_congr' fun key => ?_
    rw [hblocked, ← List.mem_map]
    constructor
    · intro hkey hover
      exact (List.mem_append.mp (hkey.mp (.inr hover))).resolve_right (hover.notMem_lockedTargets htargets)
    · intro hkey
      exact ⟨fun hor => hor.elim id fun hover => List.mem_append_left _ (hkey hover), .inl⟩
  refine ⟨deck, _, hdeck, hcopy, rfl, rfl, rfl, fun key => ?_, ?_, fun hlist => ?_⟩
  · simpa only [Text.mem_sortedDistinct] using hblocked key
  · simpa [Text.sortedDistinct_eq_iff] using hsame
  · have hequal := Text.sortedDistinct_eq_iff.mpr (hsame.mpr fun key hover => absurd hover.tuple hlist)
    rw [hequal]

/-- A request for an element on a slide in a tuple, which is locked under the id of the slide; the operation is
    on another element. -/
def tupleRequest : Request where
  reply := some ("\x7b\"ops\": [\x7b\"op\": \"set_text\", \"slideIndex\": 2, \"objectId\": \"b\", " ++
    "\"text\": \"new\"\x7d]\x7d")
  document := .dict [(.text "slides", .tuple [.dict [(.text "id", .text "s1"), (.text "objects", .list [])]])]
  locks := .list [.text "s1:a"]
  allowed := .list [.text "1:a"]
  slideIndex := none

/-- The target is not reported as blocked, and on the copy it is. -/
theorem same_on_copy_iff_tuple : ∃ deck report report',
    run Settings.default tupleRequest = .ok (.done report) ∧ tupleRequest.document.toJson = .ok (.object deck) ∧
      run Settings.default (tupleRequest.onCopy deck) = .ok (.done report') ∧
      report.blocked = [] ∧ ("1:a" : Text) ∈ report'.blocked ∧ report' ≠ report := by
  have hany : ((report? (run Settings.default tupleRequest)).any fun report => report.blocked == []) = true := by
    decide +kernel
  obtain ⟨report, hreport, hempty⟩ := (Option.any_eq_true _ _).mp hany
  have hempty : report.blocked = [] := beq_iff_eq.mp hempty
  have hrun := report?_eq_some.mp hreport
  obtain ⟨deck, report', hdeck, hcopy, -, -, -, hblocked, -, -⟩ := same_on_copy_iff hrun
  have hover : Overlooked tupleRequest deck "1:a" := by
    obtain rfl : _ = deck := Json.object.inj (Except.ok.inj hdeck)
    exact ⟨rfl, List.mem_cons_self, ⟨_, rfl⟩, 0, "a", by decide, by decide, by decide⟩
  have hmem := (hblocked "1:a").mpr (.inr hover)
  refine ⟨deck, report, report', hrun, hdeck, hcopy, hempty, hmem, ?_⟩
  rintro rfl
  rw [hempty] at hmem
  cases hmem

end Edit
end DeckEdit
