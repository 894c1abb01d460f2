import DeckEdit.Edit

/-! Sessions: a deck that is edited step by step, under locks that may change, with the earlier decks
    kept so that steps can be undone. A step that fails changes nothing. -/

namespace DeckEdit

/-- A deck, the locks on it, and the decks before it, the latest first. -/
structure Session where
  document : Value
  locks : Value
  history : List Value

namespace Session

def start (document locks : Value) : Session :=
  ⟨document, locks, []⟩

/-- A step of a session. `run` may bring locks of its own. -/
inductive Step where
  | run (reply : Option Text) (allowed : Value) (slideIndex : Option Int) (locks : Option Value)
  | apply (patch : Value) (skippedPolicy blockedTargets : Int)
  | setLocks (locks : Value)
  | undo
  | lockedTargets (targets : List Value)

inductive Answer where
  | ran (document : Value) (answer : Edit.Answer)
  | applied (result : Deck.Result) (summary : List Summary.Phrase)
  | locksSet (encoding : Option Lock.Encoding)
  | undone (depth : Nat) (document : Value)
  | targets (slideIds : List (Nat × Text)) (locked : List Text)

/-- The session with its deck moved on, and the one from before kept. -/
def advance (session : Session) (document : Value) : Session :=
  { session with document, history := session.document :: session.history }

def step (settings : Except (List Issue) Settings) (session : Session) :
    Step → Except Edit.Failure (Answer × Session)
  | .run reply allowed slideIndex locks =>
    match settings with
    | .error issues => .error (.settings issues)
    | .ok settings =>
      let request : Edit.Request :=
        { reply, allowed, slideIndex, document := session.document
          locks := locks.getD session.locks }
      match Edit.run settings request with
      | .error fault => .error (.fault fault)
      | .ok answer =>
        let answered := Answer.ran session.document answer
        match answer with
        | .refused _ => .ok (answered, session)
        | .done _ => .ok (answered, session.advance (answer.nextDocument session.document))
  | .apply patch skippedPolicy blockedTargets =>
    match Edit.applyCandidate session.document session.locks patch with
    | .error failure => .error failure
    | .ok result =>
      let summary := Summary.describe result skippedPolicy blockedTargets
      .ok (.applied result summary, session.advance (Value.ofJson (.object result.deck)))
  | .setLocks locks => .ok (.locksSet (Lock.detect? locks), { session with locks })
  | .undo =>
    let session :=
      match session.history with
      | [] => session
      | document :: history => { session with document, history }
    .ok (.undone session.history.length session.document, session)
  | .lockedTargets targets =>
    match Target.lockedIn session.document session.locks targets with
    | .error fault => .error (.fault fault)
    | .ok (slideIds, locked) => .ok (.targets slideIds locked, session)

/-- The answers to several steps, and the session after them. -/
def steps (settings : Except (List Issue) Settings) (session : Session) :
    List Step → List (Except Edit.Failure Answer) × Session
  | [] => ([], session)
  | first :: rest =>
    match session.step settings first with
    | .error failure =>
      let (answers, last) := steps settings session rest
      (.error failure :: answers, last)
    | .ok (answer, session) =>
      let (answers, last) := steps settings session rest
      (.ok answer :: answers, last)

end Session
end DeckEdit
