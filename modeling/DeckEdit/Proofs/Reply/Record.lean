import DeckEdit.Proofs.Patch.Json
import DeckEdit.Proofs.Reply
import DeckEdit.Proofs.Span.Cut

/-! What is said of a reply, as one record: whether it gives a patch, and the patch, or what keeps it from
    giving one; and the part of it that was read. -/

namespace DeckEdit

namespace Span

/-- A scan stops within the text. -/
theorem prefix_of_closeFrom {pair : Pair} {mode : Mode} {depth : Nat} {taken t span : Text}
    (h : closeFrom pair mode depth taken t = some span) : span <+: taken.reverse ++ t := by
  induction t generalizing mode depth taken with
  | nil => cases h
  | cons c rest ih =>
    rw [closeFrom] at h
    split at h
    · cases h
      exact ⟨rest, by simp⟩
    · simpa using ih h

theorem prefix_of_balanced? {t span : Text} (h : balanced? t = some span) : span <+: t := by
  cases t with
  | nil => cases h
  | cons c rest =>
    rw [balanced?] at h
    split at h
    · cases h
    · exact prefix_of_closeFrom h

theorem trim_isInfix (t : Text) : t.trim <:+: t :=
  (Text.trim_prefix t).isInfix.trans (List.dropWhile_suffix CodePoint.isBlank).isInfix

/-- A span is part of its reply. -/
theorem infix_of_find? {reply span : Text} (h : find? reply = some span) : span <:+: reply :=
  (prefix_of_balanced? h).isInfix.trans ((List.dropWhile_suffix _).isInfix.trans (trim_isInfix reply))

end Span

namespace Reply
variable {settings : Settings} {given : Option Text}

theorem candidate_isInfix (reply : Text) : candidate reply <:+: reply := by
  rw [candidate]
  cases hfind : Span.find? reply with
  | some span => exact Span.infix_of_find? hfind
  | none => exact Span.trim_isInfix reply

/-! ### Outcomes -/

/-- What a reply may come to, with what it takes. -/
inductive Outcome (settings : Settings) (given : Option Text) : Except Refusal Proposal → Prop where
  | tooLarge (hlength : settings.maxReplyLength < (given.getD []).length) :
      Outcome settings given (.error (.tooLarge (given.getD []).length settings.maxReplyLength))
  | notJson {cause : Json.ReadError} (hlength : (given.getD []).length ≤ settings.maxReplyLength)
      (hread : Json.readWithin maxDepth (candidate (given.getD [])) = .error cause) :
      Outcome settings given (.error (.notJson (candidate (given.getD [])) cause))
  | breaksContract {v : Json} {issues : List Issue}
      (hlength : (given.getD []).length ≤ settings.maxReplyLength)
      (hread : Json.readWithin maxDepth (candidate (given.getD [])) = .ok v)
      (hpatch : Patch.ofValue (Value.ofJson v) = .error issues) :
      Outcome settings given (.error (.breaksContract (candidate (given.getD [])) issues))
  | patch {v : Json} {patch : Patch} (hlength : (given.getD []).length ≤ settings.maxReplyLength)
      (hread : Json.readWithin maxDepth (candidate (given.getD [])) = .ok v)
      (hpatch : Patch.ofValue (Value.ofJson v) = .ok patch) :
      Outcome settings given (.ok ⟨patch, candidate (given.getD [])⟩)

theorem outcome_parse (settings : Settings) (given : Option Text) :
    Outcome settings given (parse settings given) := by
  unfold parse
  dsimp only
  split
  · rename_i hlength
    exact .tooLarge hlength
  · rename_i hlength
    have hlength := Int.not_lt.mp hlength
    split
    · rename_i cause hread
      exact .notJson hlength hread
    · rename_i v hread
      split
      · rename_i issues hpatch
        exact .breaksContract hlength hread hpatch
      · rename_i patch hpatch
        exact .patch hlength hread hpatch

/-- The candidate of a reply is read, but it breaks the contract. -/
def Breaks (settings : Settings) (given : Option Text) (issues : List Issue) : Prop :=
  (given.getD []).length ≤ settings.maxReplyLength ∧
    ∃ v, Json.readWithin maxDepth (candidate (given.getD [])) = .ok v ∧
      Patch.ofValue (Value.ofJson v) = .error issues

/-! ### Records -/

/-- A reply with what came of it. -/
structure Record where
  ok : Bool
  patch : Option Patch
  error : Option Text
  issues : List Issue
  raw : Text

/-- What is said of a reply. -/
def record (settings : Settings) (given : Option Text) : Record :=
  match parse settings given with
  | .ok proposal => ⟨true, some proposal.patch, none, [], proposal.candidate⟩
  | .error refusal => ⟨false, none, some refusal.message, refusal.issues, refusal.candidate⟩

theorem record_ok_iff :
    (record settings given).ok = true ↔ ∃ proposal, parse settings given = .ok proposal := by
  unfold record
  cases parse settings given <;> simp

/-- What a record says of a reply fits together. -/
structure Record.Sound (settings : Settings) (given : Option Text) (record : Record) : Prop where
  ok_iff_patch : record.ok = true ↔ record.patch.isSome = true
  ok_iff_error : record.ok = true ↔ record.error = none
  issues : ∀ issues, Breaks settings given issues → record.issues = issues ∧ issues ≠ []
  breaks : record.issues ≠ [] → Breaks settings given record.issues
  raw : record.raw <:+: given.getD []

theorem sound_record (settings : Settings) (given : Option Text) :
    Record.Sound settings given (record settings given) := by
  have houtcome := outcome_parse settings given
  unfold record
  generalize parse settings given = outcome at houtcome
  cases houtcome with
  | tooLarge hlength =>
    refine ⟨by simp, by simp, fun issues hbreaks => ?_, fun hne => absurd rfl hne, List.nil_infix⟩
    exact absurd hbreaks.1 (Int.not_le.mpr hlength)
  | notJson hlength hread =>
    refine ⟨by simp, by simp, fun issues hbreaks => ?_, fun hne => absurd rfl hne, candidate_isInfix _⟩
    obtain ⟨-, v, hv, -⟩ := hbreaks
    cases hread.symm.trans hv
  | breaksContract hlength hread hpatch =>
    refine ⟨by simp, by simp, fun issues hbreaks => ?_, fun _ => ⟨hlength, _, hread, hpatch⟩,
      candidate_isInfix _⟩
    obtain ⟨-, v, hv, hissues⟩ := hbreaks
    cases hread.symm.trans hv
    cases hpatch.symm.trans hissues
    exact ⟨rfl, fun heq => Contract.explained_ofValue _ (heq ▸ hpatch)⟩
  | patch hlength hread hpatch =>
    refine ⟨by simp, by simp, fun issues hbreaks => ?_, fun hne => absurd rfl hne, candidate_isInfix _⟩
    obtain ⟨-, v, hv, hissues⟩ := hbreaks
    cases hread.symm.trans hv
    cases hpatch.symm.trans hissues

end Reply
end DeckEdit
