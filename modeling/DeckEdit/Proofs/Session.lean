import DeckEdit.Proofs.Deck.LockSafety
import DeckEdit.Proofs.Edit.Total
import DeckEdit.Session

/-! Sessions, step by step. A step edits the present deck and keeps the one before, brings other locks, goes back
    to the deck before, or changes nothing; a step that fails changes nothing either. So undoing the edits of a
    session brings back the deck that it started from, and what the locks protect is in all of its decks. -/

namespace DeckEdit
namespace Session
variable {settings : Except (List Issue) Settings} {session next : Session} {step : Step} {answer : Answer}
  {failure : Edit.Failure} {rest steps : List Step}

/-- The decks of a session, the present one first. -/
def decks (session : Session) : List Value :=
  session.document :: session.history

/-- The locks that a step brings with it. -/
def Step.brings? : Step → Option Value
  | run _ _ _ locks => locks
  | setLocks locks => some locks
  | _ => none

def Step.edits : Step → Bool
  | run .. => true
  | apply .. => true
  | _ => false

/-! ### One step -/

/-- What a step makes of a session if it does not fail. Only an edit that is carried out makes a deck; it does so
    under the locks of the session, or under those that it brings. -/
inductive Turn (session : Session) : Step → Session → Prop where
  | refused (reply : Option Text) (allowed : Value) (slideIndex : Option Int) (locks : Option Value) :
      Turn session (.run reply allowed slideIndex locks) session
  | edited {step : Step} {ops : List Op} {result : Deck.Result} (hedits : step.edits = true)
      (happly : Deck.apply session.document (step.brings?.getD session.locks) ops = .ok result) :
      Turn session step (session.advance (.ofJson (.object result.deck)))
  | relocked (locks : Value) : Turn session (.setLocks locks) { session with locks }
  | undone {document : Value} {history : List Value} (hhistory : session.history = document :: history) :
      Turn session .undo { session with document, history }
  | atStart (hhistory : session.history = []) : Turn session .undo session
  | asked (targets : List Value) : Turn session (.lockedTargets targets) session

theorem turn_of_step (h : session.step settings step = .ok (answer, next)) : Turn session step next := by
  cases step with
  | run reply allowed slideIndex locks =>
    cases settings with
    | error issues => cases h
    | ok settings =>
      unfold Session.step at h
      dsimp only at h
      split at h
      · cases h
      · rename_i answer hrun
        cases answer with
        | refused reason =>
          cases h
          exact .refused reply allowed slideIndex locks
        | done report =>
          cases h
          obtain ⟨ops, happly⟩ := Edit.exists_apply_of_run hrun
          exact .edited rfl happly
  | apply patch skippedPolicy blockedTargets =>
    unfold Session.step at h
    dsimp only at h
    split at h
    · cases h
    · rename_i result hresult
      cases h
      obtain ⟨ops, happly⟩ := Edit.exists_apply_of_applyCandidate hresult
      exact .edited rfl happly
  | setLocks locks =>
    cases h
    exact .relocked locks
  | undo =>
    cases hhistory : session.history with
    | nil =>
      simp only [Session.step, hhistory] at h
      cases h
      exact .atStart hhistory
    | cons document history =>
      simp only [Session.step, hhistory] at h
      cases h
      exact .undone hhistory
  | lockedTargets targets =>
    unfold Session.step at h
    dsimp only at h
    split at h
    · cases h
    · cases h
      exact .asked targets

/-! ### Several steps -/

/-- The session after several steps. -/
def after (settings : Except (List Issue) Settings) (session : Session) (steps : List Step) : Session :=
  (session.steps settings steps).2

/-- A step that fails is answered by its failure and changes nothing; the session goes on. -/
theorem steps_cons_of_error (h : session.step settings step = .error failure) :
    (session.steps settings (step :: rest)).1 = .error failure :: (session.steps settings rest).1 ∧
      session.after settings (step :: rest) = session.after settings rest := by
  rw [after, Session.steps, h]
  exact ⟨rfl, rfl⟩

theorem after_cons_of_ok (h : session.step settings step = .ok (answer, next)) :
    session.after settings (step :: rest) = next.after settings rest := by
  rw [after, Session.steps, h]
  rfl

/-- What every turn keeps holds after all steps; where one fails, there is nothing to keep. -/
theorem after_induction {P : Session → Prop} (hsession : P session)
    (hturn : ∀ {s t : Session}, ∀ step ∈ steps, Turn s step t → P s → P t) : P (session.after settings steps) := by
  induction steps generalizing session with
  | nil => exact hsession
  | cons step rest ih =>
    have hrest {next : Session} (hnext : P next) : P (next.after settings rest) :=
      ih hnext fun other hother => hturn other (List.mem_cons_of_mem step hother)
    cases hstep : session.step settings step with
    | error failure =>
      rw [(steps_cons_of_error hstep).2]
      exact hrest hsession
    | ok result =>
      obtain ⟨answer, next⟩ := result
      rw [after_cons_of_ok hstep]
      exact hrest (hturn step List.mem_cons_self (turn_of_step hstep) hsession)

/-! ### Undoing -/

/-- Each undo takes the present deck away, as long as there is one before it. -/
theorem after_undos {made earlier : List Value} {document : Value}
    (h : session.decks = made ++ document :: earlier) :
    session.after settings (List.replicate made.length .undo) =
      { session with document, history := earlier } := by
  induction made generalizing session with
  | nil =>
    obtain ⟨rfl, rfl⟩ := List.cons.inj h
    rfl
  | cons deck made ih =>
    obtain ⟨before, history, hbefore⟩ := List.exists_cons_of_ne_nil
      (List.append_ne_nil_of_right_ne_nil made (List.cons_ne_nil document earlier))
    have hhistory : session.history = before :: history := (List.cons.inj h).2.trans hbefore
    have hundo : session.step settings .undo =
        .ok (.undone history.length before, { session with document := before, history }) := by
      simp only [Session.step, hhistory]
    rw [List.length_cons, List.replicate_succ, after_cons_of_ok hundo]
    exact ih hbefore.symm

/-- Without undoing, the decks of a session stay in their order behind those that are made. -/
theorem decks_suffix_after (h : .undo ∉ steps) : session.decks <:+ (session.after settings steps).decks := by
  refine after_induction (P := fun s => session.decks <:+ s.decks) (List.suffix_refl _) ?_
  intro s t step hstep hturn hsuffix
  cases hturn with
  | refused | relocked | asked => exact hsuffix
  | edited => exact hsuffix.trans (List.suffix_cons _ _)
  | undone | atStart => exact absurd hstep h

/-- As many undos as a session has grown by bring back its deck and the decks before it. The locks stay those that
    have been set. -/
theorem undo_restores (h : .undo ∉ steps) :
    ∃ n, (session.after settings steps).history.length = session.history.length + n ∧
      (session.after settings steps).after settings (List.replicate n .undo) =
        { session with locks := (session.after settings steps).locks } := by
  obtain ⟨made, hmade⟩ : session.decks <:+ (session.after settings steps).decks := decks_suffix_after h
  have hlength := congrArg List.length hmade
  simp only [decks, List.length_append, List.length_cons] at hlength
  exact ⟨made.length, by omega, after_undos hmade.symm⟩

/-! ### Decks -/

/-- All decks of a session can be copied. -/
def HoldsDecks (session : Session) : Prop :=
  ∀ v ∈ session.decks, ∃ deck, v.toJson = .ok (.object deck)

/-- A session that starts from a deck never holds anything else, whatever the steps are. -/
theorem holdsDecks_after (h : session.HoldsDecks) : (session.after settings steps).HoldsDecks := by
  refine after_induction (P := HoldsDecks) h ?_
  intro s t step _ hturn hdecks
  cases hturn with
  | refused | relocked | asked | atStart => exact hdecks
  | edited => exact List.forall_mem_cons.mpr ⟨⟨_, Value.toJson_ofJson _⟩, hdecks⟩
  | undone hhistory =>
    intro v hv
    refine hdecks v (List.mem_cons_of_mem _ ?_)
    rwa [hhistory]

/-- So an edit with texts as keys is answered at every point of such a session. -/
theorem exists_step_run {settings : Settings} (h : session.HoldsDecks) (reply : Option Text) (keys : List Text)
    (slideIndex : Option Int) (locks : Option Value) : ∃ answer next,
      session.step (.ok settings) (.run reply (.list (keys.map .text)) slideIndex locks) =
        .ok (.ran session.document answer, next) ∧ next.document = answer.nextDocument session.document := by
  obtain ⟨deck, hdeck⟩ := h session.document List.mem_cons_self
  let request : Edit.Request :=
    { reply, allowed := .list (keys.map .text), slideIndex, document := session.document
      locks := locks.getD session.locks }
  obtain ⟨answer, hanswer⟩ : ∃ answer, Edit.run settings request = .ok answer :=
    Edit.exists_answer hdeck rfl
  unfold Session.step
  dsimp only
  rw [show Edit.run settings _ = .ok answer from hanswer]
  cases answer with
  | refused reason => exact ⟨_, _, rfl, rfl⟩
  | done report => exact ⟨_, _, rfl, rfl⟩

/-! ### Locked elements -/

/-- The element at two positions of a slide is the same in all decks of a session, and its locks lock it under
    the id of the slide and its own. -/
structure Protects (session : Session) (p q : Nat) (slideId objectId : Text) (element : Json.Members) :
    Prop where
  decks : ∀ v ∈ session.decks, ∃ deck, v.toJson = .ok (.object deck) ∧
    Deck.slideIdAt? (Deck.slides deck) p = some slideId ∧
    Deck.entryAt? (Deck.slides deck) p q = some (.object element)
  named : Deck.id? element = some objectId
  locked : Lock.isLocked session.locks objectId (some slideId) none = true

/-- An element stays protected in a session as long as all locks that its steps bring lock it. -/
theorem protects_after {p q : Nat} {slideId objectId : Text} {element : Json.Members}
    (h : session.Protects p q slideId objectId element)
    (hsteps : ∀ step ∈ steps, ∀ locks, step.brings? = some locks →
      Lock.isLocked locks objectId (some slideId) none = true) :
    (session.after settings steps).Protects p q slideId objectId element := by
  refine after_induction (P := fun s => s.Protects p q slideId objectId element) h ?_
  intro s t step hstep hturn hs
  cases hturn with
  | refused | asked | atStart => exact hs
  | edited _ happly =>
    have hlocked : Lock.isLocked (step.brings?.getD s.locks) objectId (some slideId) none = true := by
      cases hbrings : step.brings? with
      | none => exact hs.locked
      | some locks => exact hsteps step hstep locks hbrings
    obtain ⟨deck, hdeck, hslide, hentry⟩ := hs.decks s.document List.mem_cons_self
    obtain ⟨deck', last, outcomes, hdeck', hrun, rfl⟩ := Deck.apply_eq_ok.mp happly
    cases hdeck.symm.trans hdeck'
    have hlast := Deck.protected_of_applyOps hrun ⟨hslide, hentry, hs.named, hlocked⟩
    refine ⟨List.forall_mem_cons.mpr ⟨⟨_, Value.toJson_ofJson _, ?_, ?_⟩, hs.decks⟩, hs.named, hs.locked⟩
    · rw [Deck.Result.deck_ofOutcomes, Deck.slides_withSlides, hlast.slide]
    · rw [Deck.Result.deck_ofOutcomes, Deck.slides_withSlides, hlast.entry]
  | relocked locks => exact ⟨hs.decks, hs.named, hsteps _ hstep locks rfl⟩
  | undone hhistory =>
    refine ⟨fun v hv => hs.decks v (List.mem_cons_of_mem _ ?_), hs.named, hs.locked⟩
    rwa [hhistory]

end Session
end DeckEdit
