import DeckEdit.Proofs.Deck.LastWrite
import DeckEdit.Proofs.Edit.Run
import DeckEdit.Proofs.Target.Policy

/-! How far an edit stays inside the request. The policy judges an operation by the index it gives, but
    an operation goes to the slide that its id names, so an edit stays inside exactly as far as the
    operations that pass the policy are covered where they land. Those whose index is that of the slide
    they find always are. -/

namespace DeckEdit
open Deck Target

namespace Target.Policy
variable {policy : Policy} {op : Op} {p : Nat}

def keys (policy : Policy) : List Text :=
  policy.allowed.filterMap Value.text?

/-- The target key of an element, by the position of its slide. -/
def keyAt (p : Nat) (objectId : Text) : Text :=
  Lock.token (Text.ofInt (p + 1)) objectId

/-- An element is inside the request. -/
structure Covers (policy : Policy) (p : Nat) (objectId : Text) : Prop where
  slide : ∀ n, policy.slideIndex = some n → (p : Int) + 1 = n
  element : policy.allowed ≠ [] → keyAt p objectId ∈ policy.keys

theorem admits_iff : policy.admits op = true ↔
    (∀ n, policy.slideIndex = some n → op.slideIndex = some n) ∧
      (policy.allowed ≠ [] → op.targetKey ∈ policy.keys) := by
  unfold admits otherSlide otherTarget keys
  rw [Bool.and_eq_true]
  refine and_congr ?_ ?_
  · cases policy.slideIndex <;> simp
  · cases policy.allowed <;> simp

/-- An operation that passes the policy is covered on the slide that its index names. -/
theorem covers_of_admits (h : policy.admits op = true) (hindex : op.slideIndex = some (p + 1 : Int)) :
    policy.Covers p op.objectId where
  slide n hn := by
    have := (admits_iff.mp h).1 n hn
    rw [hindex] at this
    exact Option.some.inj this
  element hne := by
    have := (admits_iff.mp h).2 hne
    rwa [Op.targetKey, hindex, Option.map_some, Option.getD_some] at this

/-- If the request is for one slide, no other operation that passes the policy is covered. -/
theorem covers_iff_of_slideIndex {n : Int} (hn : policy.slideIndex = some n)
    (h : policy.admits op = true) :
    policy.Covers p op.objectId ↔ op.slideIndex = some (p + 1 : Int) := by
  refine ⟨fun hcovers => ?_, covers_of_admits h⟩
  rw [hcovers.slide n hn]
  exact (admits_iff.mp h).1 n hn

/-- Slides differ only where the policy allows it. -/
structure Contains (policy : Policy) (slides changed : List Json) : Prop where
  slide : ∀ n, policy.slideIndex = some n → ∀ p : Nat, (p : Int) + 1 ≠ n → changed[p]? = slides[p]?
  element : policy.allowed ≠ [] → ∀ p q, entryAt? changed p q ≠ entryAt? slides p q →
    ∃ element objectId, entryAt? slides p q = some (.object element) ∧
      id? element = some objectId ∧ keyAt p objectId ∈ policy.keys

/-- The elements that end up different are covered under the ids by which they were found first. -/
def CoversChanges (policy : Policy) (slides changed : List Json) (hits : List Hit) : Prop :=
  ∀ p q hit, entryAt? changed p q ≠ entryAt? slides p q → firstHit? hits p q = some hit →
    policy.Covers p hit.op.objectId

theorem contains_iff {locks : Value} {slides last : List Json} {ops : List Op}
    {outcomes : List Outcome} (h : applyOps locks slides ops = .ok (last, outcomes)) :
    policy.Contains slides last ↔ policy.CoversChanges slides last (hits locks slides ops) := by
  constructor
  · intro hcontains p q hit hne hhit
    obtain ⟨first, element, hfirst, hentry, hid⟩ := exists_firstHit? h hne
    obtain rfl : first = hit := by simpa using hfirst.symm.trans hhit
    constructor
    · intro n hn
      by_contra hp
      exact hne (by simp [entryAt?, objectAt?, hcontains.slide n hn p hp])
    · intro hallowed
      obtain ⟨element', objectId, hentry', hid', hkey⟩ := hcontains.element hallowed p q hne
      obtain rfl : element' = element := by simpa using hentry'.symm.trans hentry
      obtain rfl : objectId = first.op.objectId := by simpa using hid'.symm.trans hid
      exact hkey
  · intro hcovers
    constructor
    · intro n hn p hp
      by_contra hne
      obtain ⟨q, hentry⟩ := (slidesKept_of_applyOps h).exists_entryAt?_ne hne
      obtain ⟨hit, -, hhit, -⟩ := exists_firstHit? h hentry
      exact hp ((hcovers p q hit hentry hhit).slide n hn)
    · intro hallowed p q hne
      obtain ⟨hit, element, hhit, hentry, hid⟩ := exists_firstHit? h hne
      exact ⟨element, hit.op.objectId, hentry, hid, (hcovers p q hit hne hhit).element hallowed⟩

end Target.Policy

namespace Edit
open Target

/-- An edit differs from the document only inside the request exactly if the elements that end up
    different are covered where their first operation found them. Operations that give the index of the
    slide they find are covered there; if the request is for one slide, only those. -/
theorem run_contains_iff {settings : Settings} {request : Request} {report : Report}
    (h : run settings request = .ok (.done report)) :
    ∃ policy deck, Policy.ofValue request.allowed request.slideIndex = .ok policy ∧
      request.document.toJson = .ok (.object deck) ∧
      let found := hits request.locks (slides deck) (policy.keep report.patch.ops)
      (policy.Contains (slides deck) (slides report.result.deck) ↔
        policy.CoversChanges (slides deck) (slides report.result.deck) found) ∧
      ∀ hit ∈ found,
        (hit.op.slideIndex = some (hit.slide + 1 : Int) → policy.Covers hit.slide hit.op.objectId) ∧
        ∀ n, policy.slideIndex = some n →
          (policy.Covers hit.slide hit.op.objectId ↔ hit.op.slideIndex = some (hit.slide + 1 : Int)) := by
  obtain ⟨proposal, -, hpatch⟩ := run_eq_done.mp h
  obtain ⟨policy, result, targets, hpolicy, hresult, -, rfl⟩ := applyPatch_eq_ok.mp hpatch
  obtain ⟨deck, last, outcomes, hdeck, hrun, rfl⟩ := apply_eq_ok.mp hresult
  refine ⟨policy, deck, hpolicy, hdeck, ?_, fun hit hmem => ?_⟩
  · simpa only [Result.deck_ofOutcomes, slides_withSlides] using Policy.contains_iff hrun
  · have hadmits : policy.admits hit.op = true := ((policy.mem_keep _).mp (op_mem_of_mem_hits hrun hmem)).2
    exact ⟨Policy.covers_of_admits hadmits,
      fun n hn => Policy.covers_iff_of_slideIndex hn hadmits⟩

/-! ### Where the index is not that of the slide -/

/-- Two slides on each of which there is an element with the same id. -/
def twinDeck : Json.Members :=
  [(slidesKey, .array [
    .object [(idKey, .text "s1"), (elementsKey, .array [
      .object [(idKey, .text "a"), ("text", .text "one")]])],
    .object [(idKey, .text "s2"), (elementsKey, .array [
      .object [(idKey, .text "a"), ("text", .text "two")]])]])]

/-- A request for the first slide, and a reply that gives its index and the id of the second one. -/
def twinRequest : Request where
  reply := some ("\x7b\"ops\": [\x7b\"op\": \"set_text\", \"slideId\": \"s2\", \"slideIndex\": 1, " ++
    "\"objectId\": \"a\", \"text\": \"new\"\x7d]\x7d")
  document := .ofJson (.object twinDeck)
  locks := .null
  allowed := .null
  slideIndex := some 1

def textAt? (slides : List Json) (p q : Nat) : Option Text :=
  match valueAt? slides p q "text" with
  | some (.text t) => some t
  | _ => none

/-- An operation that gives the requested index and the id of another slide is carried out there. -/
theorem not_contains_twin : ∃ report, run Settings.default twinRequest = .ok (.done report) ∧
    ¬ Policy.Contains ⟨[], some 1⟩ (slides twinDeck) (slides report.result.deck) := by
  have hany : ((report? (run Settings.default twinRequest)).any fun report =>
      (firstHit? (hits .null (slides twinDeck) (Policy.keep ⟨[], some 1⟩ report.patch.ops)) 1 0).isSome &&
        textAt? (slides report.result.deck) 1 0 == some "new") = true := by
    decide +kernel
  obtain ⟨report, hreport, hfacts⟩ := (Option.any_eq_true _ _).mp hany
  obtain ⟨hhit, htext⟩ := Bool.and_eq_true_iff.mp hfacts
  obtain ⟨hit, hhit⟩ := Option.isSome_iff_exists.mp hhit
  have hne : entryAt? (slides report.result.deck) 1 0 ≠ entryAt? (slides twinDeck) 1 0 := by
    intro heq
    rw [textAt?, valueAt?, heq] at htext
    exact absurd htext (by decide)
  have hrun := report?_eq_some.mp hreport
  obtain ⟨policy, deck, hpolicy, hdeck, hcontains, -⟩ := run_contains_iff hrun
  obtain rfl : policy = ⟨[], some 1⟩ := (Except.ok.inj hpolicy).symm
  obtain rfl : deck = twinDeck := (Json.object.inj (Except.ok.inj hdeck)).symm
  refine ⟨report, hrun, fun hcontained => ?_⟩
  have := (hcontains.mp hcontained 1 0 hit hne hhit).slide 1 rfl
  omega

end Edit
end DeckEdit
