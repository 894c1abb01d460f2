import DeckEdit.Proofs.Span.Prose
import DeckEdit.Reply

/-! What a reply gives depends on its candidate alone, and prose around a JSON text does not change the
    candidate. -/

namespace DeckEdit
namespace Reply
variable {settings : Settings} {reply other : Text}

/-- The part of a reply that was looked at, with or without a patch in it. -/
def raw : Except Refusal Proposal → Text
  | .ok proposal => proposal.candidate
  | .error refusal => refusal.candidate

/-! ### Candidates -/

theorem candidate_of_find? (h : Span.find? reply = some other) : candidate reply = other := by
  rw [candidate, h, Option.getD_some]

theorem raw_parse (h : (reply.length : Int) ≤ settings.maxReplyLength) :
    raw (parse settings (some reply)) = candidate reply := by
  unfold parse
  rw [Option.getD_some, if_neg (Int.not_lt.mpr h)]
  dsimp only
  split
  · rfl
  · split <;> rfl

theorem parse_congr (h : (reply.length : Int) ≤ settings.maxReplyLength)
    (hother : (other.length : Int) ≤ settings.maxReplyLength) (hcandidate : candidate reply = candidate other) :
    parse settings (some reply) = parse settings (some other) := by
  unfold parse
  rw [Option.getD_some, Option.getD_some, if_neg (Int.not_lt.mpr h),
    if_neg (Int.not_lt.mpr hother), hcandidate]

/-- A reply gives a patch if it is not too long, and its candidate is read as a value that is one. -/
theorem parse_eq_ok {given : Option Text} {proposal : Proposal} :
    parse settings given = .ok proposal ↔
      ((given.getD []).length : Int) ≤ settings.maxReplyLength ∧
        proposal.candidate = candidate (given.getD []) ∧
        ∃ v, Json.readWithin maxDepth proposal.candidate = .ok v ∧
          Patch.ofValue (Value.ofJson v) = .ok proposal.patch := by
  unfold parse
  dsimp only
  constructor
  · intro h
    split at h
    · cases h
    · rename_i hlength
      split at h
      · cases h
      · rename_i v hread
        split at h
        · cases h
        · rename_i patch hpatch
          cases h
          exact ⟨Int.not_lt.mp hlength, rfl, v, hread, hpatch⟩
  · rintro ⟨hlength, hcandidate, v, hread, hpatch⟩
    rw [if_neg (Int.not_lt.mpr hlength), ← hcandidate, hread]
    simp only [hpatch]

/-! ### Prose -/

/-- Prose around a JSON text never changes what a reply gives, whatever the text spells: what is found
    is the text itself, and what comes of it, patch or refusal, is what comes of the text alone. -/
theorem parse_of_prose {depth : Nat} {pair : Span.Pair} {before t : Text} {v : Json}
    (hread : Json.readWithin depth t = .ok v) (hopen : t.head? = some pair.opening)
    (hclose : t.getLast? = some pair.closing) (hbefore : ∀ pair : Span.Pair, pair.opening ∉ before)
    (after : Text) :
    Span.find? (before ++ t ++ after) = some t ∧
      (((before ++ t ++ after).length : Int) ≤ settings.maxReplyLength →
        parse settings (some (before ++ t ++ after)) = parse settings (some t) ∧
          raw (parse settings (some t)) = t) := by
  have henclosed := Span.enclosed_of_read hread hopen hclose
  have hfound := henclosed.find? hbefore after
  have halone : Span.find? t = some t := by
    have := henclosed.find? (fun _ => List.not_mem_nil) []
    rwa [List.nil_append, List.append_nil] at this
  refine ⟨hfound, fun hlength => ?_⟩
  have hlengthAlone : (t.length : Int) ≤ settings.maxReplyLength := by
    simp only [List.length_append] at hlength
    omega
  refine ⟨parse_congr hlength hlengthAlone ?_, ?_⟩
  · rw [candidate_of_find? hfound, candidate_of_find? halone]
  · rw [raw_parse hlengthAlone, candidate_of_find? halone]

/-- A text with every delimiter in strings and in nested values, in prose that goes on with delimiters
    of its own. -/
theorem parse_of_prose_nested :
    let t : Text := "\x7b\"ops\": [\x7b\"text\": \"a\x7d \\\"\x7b[ \\\\\"\x7d, [\x7b\x7d, \"\\u007b\"]], " ++
      "\"summary\": \"]\"\x7d"
    let reply : Text := "Sure, \"here\" \x7d it is:\n" ++ t ++ "\n\"\x7d ] \x7b[ done"
    Span.find? reply = some t ∧
      parse Settings.default (some reply) = parse Settings.default (some t) ∧
        raw (parse Settings.default (some t)) = t := by
  intro t reply
  obtain ⟨v, hv⟩ : ∃ v, (Json.readWithin maxDepth t).toOption = some v :=
    Option.isSome_iff_exists.mp (by decide +kernel)
  have hread : Json.readWithin maxDepth t = .ok v := by
    cases h : Json.readWithin maxDepth t with
    | error e => rw [h] at hv; cases hv
    | ok w => rw [h] at hv; cases hv; rfl
  have hbefore : ∀ pair : Span.Pair, pair.opening ∉ ("Sure, \"here\" \x7d it is:\n" : Text) := by
    intro pair
    cases pair <;> decide
  have hopen : t.head? = some Span.Pair.braces.opening := rfl
  have hclose : t.getLast? = some Span.Pair.braces.closing := rfl
  obtain ⟨hfound, hparse⟩ := parse_of_prose hread hopen hclose hbefore "\n\"\x7d ] \x7b[ done"
  exact ⟨hfound, hparse (by decide)⟩

end Reply
end DeckEdit
