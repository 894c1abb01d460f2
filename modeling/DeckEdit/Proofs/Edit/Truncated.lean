import DeckEdit.Proofs.Edit.Run
import DeckEdit.Proofs.Reply
import DeckEdit.Proofs.Span.Cut

/-! Replies that end too early. A patch comes from a balanced span only: without one the whole reply is
    read, and that never gives an object. A reply that breaks off inside its JSON value has no span, so
    it is refused and the deck stays as it is. -/

namespace DeckEdit
namespace Reply

/-- Only objects are patches. -/
theorem exists_object_of_ofValue {v : Json} {patch : Patch} (h : Patch.ofValue (Value.ofJson v) = .ok patch) :
    ∃ members, v = .object members := by
  cases v with
  | object members => exact ⟨members, rfl⟩
  | _ => cases h

/-- The patch of a reply stands in its span. -/
theorem find?_of_parse {settings : Settings} {reply : Option Text} {proposal : Proposal}
    (h : parse settings reply = .ok proposal) : Span.find? (reply.getD []) = some proposal.candidate := by
  obtain ⟨-, hcandidate, v, hread, hpatch⟩ := parse_eq_ok.mp h
  cases hfind : Span.find? (reply.getD []) with
  | some span => rw [hcandidate, candidate_of_find? hfind]
  | none =>
    obtain ⟨members, rfl⟩ := exists_object_of_ofValue hpatch
    rw [hcandidate, candidate, hfind, Option.getD_none] at hread
    have hsome := Span.isSome_find?_of_read hread
    rw [hfind] at hsome
    cases hsome

theorem eq_ok_of_toOption {ε α : Type} {checked : Except ε α} {a : α} (h : checked.toOption = some a) :
    checked = .ok a := by
  cases checked with
  | error e => cases h
  | ok b => exact congrArg Except.ok (Option.some.inj h)

end Reply

namespace Edit
open Reply

theorem run_of_parse_error {settings : Settings} {request : Request} {reason : Refusal}
    (h : parse settings request.reply = .error reason) : run settings request = .ok (.refused reason) := by
  unfold run
  rw [h]

/-- A patch is taken from the span of its reply only. So a reply that breaks off inside a JSON value, after
    prose that opens no pair, changes nothing: it has no span, and whatever it is to be applied to, it is
    refused, the deck stays as it was, and no operation is counted. -/
theorem truncated_not_applied :
    (∀ (settings : Settings) (reply : Option Text) (proposal : Proposal),
      parse settings reply = .ok proposal → Span.find? (reply.getD []) = some proposal.candidate) ∧
    ∀ {depth : Nat} {pair : Span.Pair} {before t cut : Text} {v : Json},
      Json.readWithin depth t = .ok v → t.head? = some pair.opening → t.getLast? = some pair.closing →
      (∀ pair : Span.Pair, pair.opening ∉ before) → cut <+: t → cut ≠ t →
      Span.find? (before ++ cut) = none ∧
        ∀ (settings : Settings) (request : Request), request.reply = some (before ++ cut) →
          ∃ reason answer, parse settings request.reply = .error reason ∧
            run settings request = .ok answer ∧ answer = .refused reason ∧
            answer.nextDocument request.document = request.document ∧
            answer.counters = ⟨0, 0, 0, 0⟩ := by
  refine ⟨fun _ _ _ => find?_of_parse, ?_⟩
  intro depth pair before t cut v hread hopen hclose hbefore hcut hne
  have hunclosed := (Span.enclosed_of_read hread hopen hclose).unclosed hcut hne
  have hfind := hunclosed.find? hbefore
  refine ⟨hfind, fun settings request hreply => ?_⟩
  cases hparse : parse settings request.reply with
  | ok proposal =>
    have hspan := find?_of_parse hparse
    rw [hreply, Option.getD_some, hfind] at hspan
    cases hspan
  | error reason => exact ⟨reason, _, rfl, run_of_parse_error hparse, rfl, rfl, rfl⟩

/-- A reply as a whole, and cut off inside a string right after a backslash. -/
theorem truncated_not_applied_in_string :
    let whole : Text := "\x7b\"ops\": [\x7b\"op\": \"set_text\", \"objectId\": \"a\", " ++
      "\"text\": \"\x7d]\x7d \\\"\x7d\"\x7d]\x7d"
    let cut : Text := "\x7b\"ops\": [\x7b\"op\": \"set_text\", \"objectId\": \"a\", " ++
      "\"text\": \"\x7d]\x7d \\"
    (∃ proposal, parse Settings.default (some ("Sure:\n" ++ whole)) = .ok proposal ∧
      Span.find? ("Sure:\n" ++ whole) = some proposal.candidate) ∧
    cut <+: whole ∧ Span.find? ("Sure:\n" ++ cut) = none ∧
      ∀ (request : Request), request.reply = some ("Sure:\n" ++ cut) →
        ∃ reason, run Settings.default request = .ok (.refused reason) := by
  intro whole cut
  obtain ⟨proposal, hproposal⟩ := Option.isSome_iff_exists.mp
    (show (parse Settings.default (some ("Sure:\n" ++ whole))).toOption.isSome by decide +kernel)
  have hparse := eq_ok_of_toOption hproposal
  refine ⟨⟨proposal, hparse, truncated_not_applied.1 _ _ _ hparse⟩, ?_⟩
  have hcut : cut <+: whole := ⟨"\"\x7d\"\x7d]\x7d", by decide⟩
  obtain ⟨v, hv⟩ := Option.isSome_iff_exists.mp
    (show (Json.readWithin maxDepth whole).toOption.isSome by decide +kernel)
  have hbefore : ∀ pair : Span.Pair, pair.opening ∉ ("Sure:\n" : Text) := by
    intro pair
    cases pair <;> decide
  have hopen : whole.head? = some Span.Pair.braces.opening := rfl
  have hclose : whole.getLast? = some Span.Pair.braces.closing := rfl
  obtain ⟨hfind, hrun⟩ :=
    truncated_not_applied.2 (eq_ok_of_toOption hv) hopen hclose hbefore hcut (by decide)
  refine ⟨hcut, hfind, fun request hreply => ?_⟩
  obtain ⟨reason, answer, -, hanswer, rfl, -, -⟩ := hrun Settings.default request hreply
  exact ⟨reason, hanswer⟩

end Edit
end DeckEdit
