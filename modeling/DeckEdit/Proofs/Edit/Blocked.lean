import DeckEdit.Proofs.Deck.Reach
import DeckEdit.Proofs.Edit.Accounting
import DeckEdit.Proofs.Edit.Containment
import DeckEdit.Proofs.Target
import DeckEdit.Proofs.Text.Sorted

/-! Targets that an edit reports as blocked. They are looked up under the id and the index of their slide,
    and operations are checked under the id of the slide they find and the index they give. So a lock that
    holds for an index only does not stop an operation that finds the slide by its id and gives another
    index, or none; every other operation it does stop. -/

namespace DeckEdit
namespace Deck
variable {locks : Value} {slides : List Json} {op : Op} {p : Nat} {objectId : Text}

/-- The operation names the slide at a position by its id, and gives an index that is not the slide's. -/
structure Strays (locks : Value) (slides : List Json) (p : Nat) (objectId : Text) (op : Op) : Prop where
  slideId : ∃ id, op.slideId = some id ∧ slideIdAt? slides p = some id
  slideIndex : op.slideIndex ≠ some (p + 1 : Int)
  free : Lock.isLocked locks objectId op.slideId none = false

/-- Only an operation that strays reaches an element that is locked under its slide's id or index. -/
theorem Reaches.strays (h : Reaches locks slides p objectId op)
    (hlocked : Lock.isLocked locks objectId (slideIdAt? slides p) (some (p + 1)) = true) :
    Strays locks slides p objectId op := by
  obtain ⟨-, hfound, hfree⟩ := h
  have hindex : op.slideIndex ≠ some (p + 1 : Int) := by
    intro heq
    rw [heq, hlocked] at hfree
    cases hfree
  obtain ⟨⟨found, slide⟩, hslide, rfl⟩ := Option.map_eq_some_iff.mp hfound
  have hobject := objectAt?_of_findSlide? hslide
  rw [findSlide?_eq, Option.or_eq_some_iff] at hslide
  rcases hslide with hid | ⟨-, hnamed⟩
  · obtain ⟨id, hslideId, -, hfirst⟩ := slideById?_eq_some.mp hid
    have hat : slideIdAt? slides found = some id := by
      rw [slideIdAt?, hobject]
      exact hfirst.named
    refine ⟨⟨id, hslideId, hat⟩, hindex, ?_⟩
    rw [hat] at hfree
    rw [hslideId]
    exact Bool.eq_false_iff.mpr fun hlock =>
      Bool.eq_false_iff.mp hfree (Lock.isLocked_of_id hlock op.slideIndex)
  · obtain ⟨index, hsome, hat⟩ := Option.bind_eq_some_iff.mp hnamed
    exact absurd (hsome.trans (congrArg some (slideAt?_eq_some.mp hat).1)) hindex

end Deck

namespace Edit
open Target

/-- A target that locks are reported to block is edited exactly if an operation that the policy keeps reaches
    it, and such an operation strays from the slide it names by id. Where none does, every element with the
    target's id on its slide is as it was. -/
theorem blocked_edited_iff {settings : Settings} {request : Request} {report : Report}
    {targets : List Text} {key objectId : Text} {index : Int}
    (h : run settings request = .ok (.done report))
    (htargets : lockedTargets request.document request.locks request.allowed = .ok targets)
    (hkey : key ∈ targets) (hparse : parse? key = some (index, objectId)) :
    key ∈ report.blocked ∧ ∃ (policy : Policy) (deck : Json.Members) (p : Nat),
      Policy.ofValue request.allowed request.slideIndex = .ok policy ∧
      request.document.toJson = .ok (.object deck) ∧ index = p + 1 ∧
      let kept := policy.keep report.patch.ops
      let reaches := Deck.Reaches request.locks (Deck.slides deck) p objectId
      (∀ op, reaches op → Deck.Strays request.locks (Deck.slides deck) p objectId op) ∧
      ((∀ op ∈ kept, ¬ reaches op) → ∀ q element,
        Deck.entryAt? (Deck.slides deck) p q = some (.object element) →
        Deck.id? element = some objectId →
        Deck.entryAt? (Deck.slides report.result.deck) p q = some (.object element)) ∧
      (Deck.Holds (Deck.slides deck) p objectId →
        ((∃ hit ∈ Deck.hits request.locks (Deck.slides deck) kept,
          hit.slide = p ∧ hit.op.objectId = objectId) ↔ ∃ op ∈ kept, reaches op)) := by
  obtain ⟨proposal, -, hpatch⟩ := run_eq_done.mp h
  obtain ⟨policy, result, found, hpolicy, hresult, hfound, rfl⟩ := applyPatch_eq_ok.mp hpatch
  obtain ⟨deck, last, outcomes, hdeck, hrun, rfl⟩ := Deck.apply_eq_ok.mp hresult
  obtain rfl : found = targets := Except.ok.inj (hfound.symm.trans htargets)
  obtain ⟨p, rfl⟩ : ∃ p : Nat, index = p + 1 :=
    ⟨(index - 1).toNat, by have := one_le_of_parse? hparse; omega⟩
  have hlocked := isLocked_of_isLocked hdeck hparse (mem_lockedTargets htargets hkey)
  refine ⟨Text.mem_sortedDistinct.mpr (List.mem_append_right _ hkey), policy, deck, p, hpolicy, hdeck,
    rfl, fun op hreaches => hreaches.strays hlocked, fun hnone q element hentry hid => ?_,
    Deck.exists_hit_iff_reaches hrun⟩
  rw [Deck.Result.deck_ofOutcomes, Deck.slides_withSlides]
  exact Deck.entryAt?_of_not_reaches hrun hnone hentry hid

/-! ### A lock on an index -/

/-- A request for the element `a` on both slides of `twinDeck`, which is locked on the first one by index. -/
def twinTargets (ops : Text) : Request where
  reply := some ("\x7b\"ops\": [" ++ ops ++ "]\x7d")
  document := .ofJson (.object twinDeck)
  locks := .list [.text "1:a"]
  allowed := .list [.text "1:a", .text "2:a"]
  slideIndex := none

/-- Operations by index: the first one is stopped, and the locked element stays. -/
def byIndex : Text :=
  "\x7b\"op\": \"set_text\", \"slideIndex\": 1, \"objectId\": \"a\", \"text\": \"new\"\x7d, " ++
    "\x7b\"op\": \"set_text\", \"slideIndex\": 2, \"objectId\": \"a\", \"text\": \"new\"\x7d"

theorem blocked_edited_iff_by_index : ∃ report,
    run Settings.default (twinTargets byIndex) = .ok (.done report) ∧ ("1:a" : Text) ∈ report.blocked ∧
      report.counters = ⟨1, 1, 0, 0⟩ ∧
      Deck.valueAt? (Deck.slides report.result.deck) 0 0 "text" = some (.text "one") := by
  have hany : ((report? (run Settings.default (twinTargets byIndex))).any fun report =>
      report.counters == ⟨1, 1, 0, 0⟩ && report.patch.ops.all (·.slideId.isNone)) = true := by
    decide +kernel
  obtain ⟨report, hreport, hfacts⟩ := (Option.any_eq_true _ _).mp hany
  obtain ⟨hcounters, hops⟩ := Bool.and_eq_true_iff.mp hfacts
  have hrun := report?_eq_some.mp hreport
  have htargets : lockedTargets (twinTargets byIndex).document (twinTargets byIndex).locks
      (twinTargets byIndex).allowed = .ok ["1:a"] := by decide +kernel
  have hparse : parse? "1:a" = some ((1 : Int), ("a" : Text)) := by decide +kernel
  obtain ⟨hblocked, policy, deck, p, -, hdeck, hindex, hstrays, hkept, -⟩ :=
    blocked_edited_iff hrun htargets List.mem_cons_self hparse
  obtain rfl : deck = twinDeck := (Json.object.inj (Except.ok.inj hdeck)).symm
  obtain rfl : p = 0 := by omega
  refine ⟨report, hrun, hblocked, beq_iff_eq.mp hcounters, ?_⟩
  have hsame := hkept (fun op hop hreaches => ?_) 0
    [(Deck.idKey, .text "a"), ("text", .text "one")] rfl rfl
  · rw [Deck.valueAt?, hsame]
    rfl
  · -- No operation of the reply names a slide by its id, so none strays.
    obtain ⟨id, hid, -⟩ := (hstrays op hreaches).slideId
    have hnone := List.all_eq_true.mp hops op ((policy.keep_sublist _).subset hop)
    rw [hid] at hnone
    cases hnone

/-- An operation that gives the second slide's index and the first one's id. -/
def byOtherId : Text :=
  "\x7b\"op\": \"set_text\", \"slideId\": \"s1\", \"slideIndex\": 2, \"objectId\": \"a\", \"text\": \"new\"\x7d"

/-- A target that is reported as blocked, and edited all the same. -/
theorem not_blocked_unchanged_twin : ∃ report targets,
    run Settings.default (twinTargets byOtherId) = .ok (.done report) ∧
      lockedTargets (twinTargets byOtherId).document (twinTargets byOtherId).locks
        (twinTargets byOtherId).allowed = .ok targets ∧
      ("1:a" : Text) ∈ targets ∧ ("1:a" : Text) ∈ report.blocked ∧
      parse? "1:a" = some ((1 : Int), ("a" : Text)) ∧
      Deck.entryAt? (Deck.slides twinDeck) 0 0 =
        some (.object [(Deck.idKey, .text "a"), ("text", .text "one")]) ∧
      Deck.entryAt? (Deck.slides report.result.deck) 0 0 ≠
        Deck.entryAt? (Deck.slides twinDeck) 0 0 := by
  have hany : ((report? (run Settings.default (twinTargets byOtherId))).any fun report =>
      report.blocked.contains "1:a" &&
        textAt? (Deck.slides report.result.deck) 0 0 == some "new") = true := by
    decide +kernel
  obtain ⟨report, hreport, hfacts⟩ := (Option.any_eq_true _ _).mp hany
  obtain ⟨hblocked, htext⟩ := Bool.and_eq_true_iff.mp hfacts
  refine ⟨report, ["1:a"], report?_eq_some.mp hreport, by decide +kernel, List.mem_cons_self,
    List.contains_iff_mem.mp hblocked, by decide +kernel, rfl, fun heq => ?_⟩
  rw [textAt?, Deck.valueAt?, heq] at htext
  exact absurd htext (by decide)

end Edit
end DeckEdit
