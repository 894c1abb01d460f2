import DeckEdit.Proofs.Deck.LockCheck
import DeckEdit.Proofs.Edit.Accounting
import DeckEdit.Proofs.Summary
import DeckEdit.Proofs.Text
import DeckEdit.Proofs.Text.Sorted

/-! How many targets an edit reports as blocked. Each operation that a lock stops is reported by a token, and a
    token is counted once. It holds the index that the operation gives, or the id where it gives none, and
    not the slide that is found. So operations on one element may be counted twice, and operations on two
    elements once. -/

namespace DeckEdit

/-- The slide in the token of an operation: the index that the operation gives, or the id if it gives none. -/
def Op.slideRef (op : Op) : Text :=
  ((op.slideIndex.map Text.ofInt) <|> op.slideId).getD unnamedSlide

theorem Op.reportToken_eq (op : Op) : op.reportToken = Lock.token op.slideRef op.objectId := rfl

namespace Lock
variable {slideKey slideKey' objectId objectId' : Text}

theorem token_inj_left : token slideKey objectId = token slideKey' objectId ↔ slideKey = slideKey' := by
  rw [token_eq, token_eq, List.append_left_inj]

theorem token_inj_right : token slideKey objectId = token slideKey objectId' ↔ objectId = objectId' := by
  rw [token_eq, token_eq, List.append_right_inj, List.cons.injEq, and_iff_right rfl]

end Lock

namespace Deck
variable {locks : Value} {slides : List Json} {a b op : Op} {p : Nat}

/-! ### Elements and tokens -/

/-- The position of the slide that an operation finds. -/
def place? (slides : List Json) (op : Op) : Option Nat :=
  (findSlide? slides op).map Prod.fst

/-- The element that an operation is for: where its slide is, and the id. -/
def target (slides : List Json) (op : Op) : Option Nat × Text :=
  (place? slides op, op.objectId)

theorem target_eq_iff : target slides a = target slides b ↔
    place? slides a = place? slides b ∧ a.objectId = b.objectId := by
  rw [target, target, Prod.mk.injEq]

theorem Stopped.exists_place? (h : Stopped locks slides op) : ∃ p, place? slides op = some p := by
  obtain ⟨p, slide, hfound, -⟩ := h
  exact ⟨p, by rw [place?, hfound, Option.map_some]⟩

/-- What it takes for two operations to be reported alike exactly if they are on one element: the slide is told
    from the token, and for elements with one id it is the same in the tokens exactly if it is the same. -/
structure Consistent (slides : List Json) (a b : Op) : Prop where
  told : a.reportToken = b.reportToken → a.slideRef = b.slideRef
  placed : a.objectId = b.objectId → (a.slideRef = b.slideRef ↔ place? slides a = place? slides b)

theorem consistent_iff : Consistent slides a b ↔
    (a.reportToken = b.reportToken ↔ target slides a = target slides b) := by
  rw [target_eq_iff]
  constructor
  · rintro ⟨htold, hplaced⟩
    constructor
    · intro htoken
      have href := htold htoken
      rw [Op.reportToken_eq, Op.reportToken_eq, href, Lock.token_inj_right] at htoken
      exact ⟨(hplaced htoken).mp href, htoken⟩
    · rintro ⟨hplace, hobject⟩
      rw [Op.reportToken_eq, Op.reportToken_eq, (hplaced hobject).mpr hplace, hobject]
  · intro h
    have hrefs (hobject : a.objectId = b.objectId) : a.reportToken = b.reportToken ↔ a.slideRef = b.slideRef := by
      rw [Op.reportToken_eq, Op.reportToken_eq, hobject, Lock.token_inj_left]
    constructor
    case told =>
      intro htoken
      exact (hrefs (h.mp htoken).2).mp htoken
    case placed =>
      intro hobject
      rw [← hrefs hobject, h, and_iff_left hobject]

/-- The slide is told from a token if it is written without the separator. -/
theorem slideRef_eq_of_reportToken (ha : CodePoint.ofChar ':' ∉ a.slideRef) (hb : CodePoint.ofChar ':' ∉ b.slideRef)
    (h : a.reportToken = b.reportToken) : a.slideRef = b.slideRef := by
  rw [Op.reportToken_eq, Op.reportToken_eq, Lock.token_eq, Lock.token_eq, Text.append_separator_inj ha hb] at h
  exact h.1

/-- Operations that give the indexes of the slides they find are consistent. -/
theorem consistent_of_indexes {q : Nat} (hp : place? slides a = some p) (hq : place? slides b = some q)
    (ha : a.slideIndex = some (p + 1 : Int)) (hb : b.slideIndex = some (q + 1 : Int)) : Consistent slides a b := by
  have haref : a.slideRef = Text.ofInt (p + 1) := by
    rw [Op.slideRef, ha]
    rfl
  have hbref : b.slideRef = Text.ofInt (q + 1) := by
    rw [Op.slideRef, hb]
    rfl
  constructor
  case told =>
    refine slideRef_eq_of_reportToken ?_ ?_
    · exact haref ▸ Text.notMem_ofInt rfl (by decide) _
    · exact hbref ▸ Text.notMem_ofInt rfl (by decide) _
  case placed =>
    intro _
    rw [haref, hbref, hp, hq, Text.ofInt_inj, Option.some.injEq]
    omega

/-- Without an index a slide is found by its id, and that is in the token. -/
theorem slideIdAt?_of_place? (hindex : op.slideIndex = none) (h : place? slides op = some p) :
    op.slideId = some op.slideRef ∧ slideIdAt? slides p = some op.slideRef := by
  rw [place?, findSlide?_eq, hindex, Option.bind_none, Option.or_none] at h
  obtain ⟨⟨q, slide⟩, hfound, rfl⟩ := Option.map_eq_some_iff.mp h
  obtain ⟨id, hid, -, hfirst⟩ := slideById?_eq_some.mp hfound
  obtain rfl : op.slideRef = id := by
    rw [Op.slideRef, hindex, hid]
    rfl
  rw [slideIdAt?, objectAt?_eq_some.mpr hfirst.entry]
  exact ⟨hid, hfirst.named⟩

/-- So operations that give ids alone are consistent, if these are written without the separator. -/
theorem consistent_of_ids {q : Nat} (hp : place? slides a = some p) (hq : place? slides b = some q)
    (ha : a.slideIndex = none) (hb : b.slideIndex = none)
    (hacolon : ∀ id, a.slideId = some id → CodePoint.ofChar ':' ∉ id)
    (hbcolon : ∀ id, b.slideId = some id → CodePoint.ofChar ':' ∉ id) : Consistent slides a b := by
  obtain ⟨haid, haat⟩ := slideIdAt?_of_place? ha hp
  obtain ⟨hbid, hbat⟩ := slideIdAt?_of_place? hb hq
  refine ⟨slideRef_eq_of_reportToken (hacolon _ haid) (hbcolon _ hbid), fun _ => ⟨fun href => ?_, fun hplace => ?_⟩⟩
  · have hsame : a.slideId = b.slideId := by rw [haid, hbid, href]
    rw [place?, place?, findSlide?_eq, findSlide?_eq, slideById?, slideById?, ha, hb, hsame]
  · obtain rfl : p = q := Option.some.inj (hp.symm.trans (hplace.trans hq))
    exact Option.some.inj (haat.symm.trans hbat)

/-! ### Counts -/

/-- As many different values come out of a list for functions that tell apart the same entries. -/
theorem length_dedup_map_congr {α β γ : Type} [DecidableEq β] [DecidableEq γ] {f : α → β} {g : α → γ}
    {l : List α} (h : ∀ a ∈ l, ∀ b ∈ l, f a = f b ↔ g a = g b) :
    (l.map f).dedup.length = (l.map g).dedup.length := by
  induction l with
  | nil => rfl
  | cons a rest ih =>
    have hrest := ih fun b hb c hc => h b (List.mem_cons_of_mem a hb) c (List.mem_cons_of_mem a hc)
    have hmem : f a ∈ rest.map f ↔ g a ∈ rest.map g := by
      simp only [List.mem_map]
      refine exists_congr fun b => and_congr_right fun hb => ?_
      exact h b (List.mem_cons_of_mem a hb) a List.mem_cons_self
    rw [List.map_cons, List.map_cons]
    by_cases hf : f a ∈ rest.map f
    · rw [List.dedup_cons_of_mem hf, List.dedup_cons_of_mem (hmem.mp hf), hrest]
    · rw [List.dedup_cons_of_notMem hf, List.dedup_cons_of_notMem (mt hmem.mpr hf), List.length_cons,
        List.length_cons, hrest]

/-- The entries of a report stand for the elements of the locked operations, one for each. -/
structure PerElement (slides : List Json) (locked : List Op) (blocked : List Text) : Prop where
  count : blocked.length = (locked.map (target slides)).dedup.length
  once : ∀ a ∈ locked, ∀ b ∈ locked, target slides a = target slides b → a.reportToken = b.reportToken
  apart : ∀ a ∈ locked, ∀ b ∈ locked, a.reportToken = b.reportToken → target slides a = target slides b

theorem perElement_iff {locked : List Op} :
    PerElement slides locked (Text.sortedDistinct (locked.map Op.reportToken)) ↔
      ∀ a ∈ locked, ∀ b ∈ locked, Consistent slides a b := by
  simp only [consistent_iff]
  constructor
  · rintro ⟨-, honce, hapart⟩ a ha b hb
    exact ⟨hapart a ha b hb, honce a ha b hb⟩
  · intro h
    refine ⟨?_, fun a ha b hb => (h a ha b hb).mpr, fun a ha b hb => (h a ha b hb).mp⟩
    rw [Text.length_sortedDistinct]
    exact length_dedup_map_congr h

end Deck

namespace Edit
variable {settings : Settings} {request : Request} {report : Report}

theorem blocked_eq (h : run settings request = .ok (.done report)) : ∃ targets,
    lockedTargets request.document request.locks request.allowed = .ok targets ∧
      report.blocked = Text.sortedDistinct ((report.result.opsWith .locked).map Op.reportToken ++ targets) := by
  obtain ⟨proposal, -, hpatch⟩ := run_eq_done.mp h
  obtain ⟨policy, result, targets, -, -, htargets, rfl⟩ := applyPatch_eq_ok.mp hpatch
  exact ⟨targets, htargets, rfl⟩

/-- An operation that a lock stops is reported, so that none is counted where nothing is. -/
theorem skippedLocked_of_blocked_eq_nil (h : run settings request = .ok (.done report))
    (hnil : report.blocked = []) : report.result.skippedLocked = 0 := by
  obtain ⟨targets, -, hblocked⟩ := blocked_eq h
  obtain ⟨ops, haccounts⟩ := accounts_of_run h
  rw [← haccounts.length_opsWith_locked]
  refine List.length_eq_zero_iff.mpr (List.eq_nil_iff_forall_not_mem.mpr fun op hop => ?_)
  have htoken : op.reportToken ∈ (report.result.opsWith .locked).map Op.reportToken := List.mem_map_of_mem hop
  have hmem := Text.mem_sortedDistinct.mpr (List.mem_append_left targets htoken)
  rw [← hblocked, hnil] at hmem
  cases hmem

/-- What a summary counts as locked are the targets that are reported as blocked. -/
theorem lockedCount_eq (h : run settings request = .ok (.done report)) :
    Summary.lockedCount report.result report.blocked.length = report.blocked.length := by
  rw [Summary.lockedCount]
  split
  · rename_i hzero
    have hnil : report.blocked = [] := List.length_eq_zero_iff.mp (Int.natCast_eq_zero.mp hzero)
    rw [skippedLocked_of_blocked_eq_nil h hnil, hnil]
    rfl
  · rfl

/-- A summary tells how many targets are reported as blocked, if there are any. -/
theorem locksRespected_mem_summary (h : run settings request = .ok (.done report)) {n : Int} :
    .locksRespected n ∈ report.summary ↔ n = report.blocked.length ∧ report.blocked ≠ [] := by
  rw [Report.summary, Summary.locksRespected_mem_describe, lockedCount_eq h, and_comm, ← List.length_pos_iff]
  refine and_congr_right fun heq => ?_
  omega

/-- Without allowed targets an edit reports the locked operations, and counts a token once. The tokens stand for
    their elements, one for each, exactly if the operations are consistent with one another; so they do if
    each of them gives the index of the slide that it finds, or if none gives an index and the ids do not
    hold the separator. -/
theorem blocked_per_element_iff (h : run settings request = .ok (.done report))
    (hfree : request.allowed.isTruthy = false) :
    ∃ deck, request.document.toJson = .ok (.object deck) ∧
      let slides := Deck.slides deck
      let locked := report.result.opsWith .locked
      (∀ op ∈ locked, ∃ p, Deck.place? slides op = some p) ∧
      (∀ token, token ∈ report.blocked ↔ ∃ op ∈ locked, op.reportToken = token) ∧
      report.blocked.length = (locked.map Op.reportToken).dedup.length ∧
      (∀ n : Int, .locksRespected n ∈ report.summary ↔ n = report.blocked.length ∧ report.blocked ≠ []) ∧
      (Deck.PerElement slides locked report.blocked ↔ ∀ a ∈ locked, ∀ b ∈ locked, Deck.Consistent slides a b) ∧
      ((∀ op ∈ locked, ∀ p : Nat, Deck.place? slides op = some p → op.slideIndex = some (p + 1 : Int)) →
        Deck.PerElement slides locked report.blocked) ∧
      ((∀ op ∈ locked, op.slideIndex = none ∧ ∀ id, op.slideId = some id → CodePoint.ofChar ':' ∉ id) →
        Deck.PerElement slides locked report.blocked) := by
  have hsummary := fun n => locksRespected_mem_summary h (n := n)
  obtain ⟨proposal, -, hpatch⟩ := run_eq_done.mp h
  obtain ⟨policy, result, targets, -, hresult, htargets, rfl⟩ := applyPatch_eq_ok.mp hpatch
  obtain ⟨deck, last, outcomes, hdeck, -, -⟩ := Deck.apply_eq_ok.mp hresult
  obtain rfl : [] = targets := by
    rw [lockedTargets, hfree] at htargets
    exact Except.ok.inj htargets
  rw [List.append_nil] at hsummary ⊢
  have hplace : ∀ op ∈ result.opsWith .locked, ∃ p, Deck.place? (Deck.slides deck) op = some p :=
    fun op hop => ((Deck.mem_opsWith_locked hresult hdeck).mp hop).2.exists_place?
  refine ⟨deck, hdeck, hplace, fun token => ?_, Text.length_sortedDistinct _, hsummary, Deck.perElement_iff,
    fun hindex => Deck.perElement_iff.mpr fun a ha b hb => ?_,
    fun hids => Deck.perElement_iff.mpr fun a ha b hb => ?_⟩
  · rw [Text.mem_sortedDistinct, List.mem_map]
  · obtain ⟨p, hp⟩ := hplace a ha
    obtain ⟨q, hq⟩ := hplace b hb
    exact Deck.consistent_of_indexes hp hq (hindex a ha p hp) (hindex b hb q hq)
  · obtain ⟨p, hp⟩ := hplace a ha
    obtain ⟨q, hq⟩ := hplace b hb
    exact Deck.consistent_of_ids hp hq (hids a ha).1 (hids b hb).1 (hids a ha).2 (hids b hb).2

/-- A request with two operations on the one locked element of a deck, by the id of its slide and by its index. -/
def twiceRequest : Request where
  reply := some ("\x7b\"ops\": [" ++
    "\x7b\"op\": \"set_text\", \"slideId\": \"s1\", \"objectId\": \"a\", \"text\": \"new\"\x7d, " ++
    "\x7b\"op\": \"set_text\", \"slideIndex\": 1, \"objectId\": \"a\", \"text\": \"new\"\x7d]\x7d")
  document := .ofJson (.object pairDeck)
  locks := .list [.text "s1:a"]
  allowed := .null
  slideIndex := none

/-- The one element is reported and counted twice. -/
theorem blocked_per_element_iff_twice : ∃ report,
    run Settings.default twiceRequest = .ok (.done report) ∧ .locksRespected 2 ∈ report.summary ∧
      ¬ Deck.PerElement (Deck.slides pairDeck) (report.result.opsWith .locked) report.blocked := by
  have hany : ((report? (run Settings.default twiceRequest)).any fun report =>
      ((report.result.opsWith .locked).map Op.reportToken).dedup.length == 2 &&
        ((report.result.opsWith .locked).map (Deck.target (Deck.slides pairDeck))).dedup.length == 1) = true := by
    decide +kernel
  obtain ⟨report, hreport, hfacts⟩ := (Option.any_eq_true _ _).mp hany
  obtain ⟨htokens, helements⟩ := Bool.and_eq_true_iff.mp hfacts
  have htokens := beq_iff_eq.mp htokens
  have helements := beq_iff_eq.mp helements
  have hrun := report?_eq_some.mp hreport
  obtain ⟨deck, -, -, -, hlength, hsummary, -⟩ := blocked_per_element_iff hrun rfl
  refine ⟨report, hrun, (hsummary 2).mpr ⟨by omega, fun hnil => ?_⟩, fun hper => ?_⟩
  · rw [hnil, htokens] at hlength
    cases hlength
  · have := hper.count
    omega

end Edit
end DeckEdit
