import DeckEdit.Proofs.CommandLine.Allow
import DeckEdit.Proofs.CommandLine.Unreadable
import DeckEdit.Proofs.Edit.Total

/-! Faults of the command. Its deck and its locks are read from JSON, so the only thing left that an edit
    cannot work with is a target that is no text; and only arguments that give an empty one bring it about. -/

namespace DeckEdit
namespace CommandLine
variable {settings : Settings} {options : Options} {input : Input}

/-- What the command asks for. -/
def request (options : Options) (input : Input) : Edit.Request where
  reply := some input.reply
  document := Value.ofJson (.object input.document)
  locks := Value.ofJson input.locks
  allowed := .list (options.allow.map allowedKey)
  slideIndex := options.slideIndex

/-- The failure that the command reports for a fault. -/
def notShaped (fault : Fault) : Trouble :=
  .failure ("Document is not JSON-shaped: " ++ Text.ofString fault.message)

/-! ### Targets -/

theorem firstUnhashable?_map_allowedKey {allow : List (Option Text)} (h : none ∈ allow) :
    Value.firstUnhashable? (allow.map allowedKey) = some .list := by
  induction allow with
  | nil => cases h
  | cons target rest ih =>
    cases target with
    | none => rfl
    | some key => exact ih ((List.mem_cons.mp h).resolve_left nofun)

theorem map_allowedKey {allow : List (Option Text)} (h : none ∉ allow) :
    allow.map allowedKey = (allow.filterMap id).map .text := by
  induction allow with
  | nil => rfl
  | cons target rest ih =>
    cases target with
    | none => exact absurd List.mem_cons_self h
    | some key =>
      rw [List.map_cons, ih fun hrest => h (List.mem_cons_of_mem _ hrest)]
      rfl

theorem ofValue_of_empty (h : none ∈ options.allow) :
    Target.Policy.ofValue (request options input).allowed (request options input).slideIndex =
      .error (.unhashable .list) := by
  have hne : options.allow.map allowedKey ≠ [] := by
    intro hnil
    rw [List.map_eq_nil_iff.mp hnil] at h
    cases h
  have htruthy : (Value.list (options.allow.map allowedKey)).isTruthy = true := by
    simpa [Value.isTruthy] using hne
  simp only [request, Target.Policy.ofValue, htruthy, Value.elements?, firstUnhashable?_map_allowedKey h]
  rfl

/-! ### Edits -/

theorem run_of_empty (h : none ∈ options.allow) {proposal : Reply.Proposal}
    (hparse : Reply.parse settings (some input.reply) = .ok proposal) :
    Edit.run settings (request options input) = .error (.unhashable .list) := by
  have hpatch : Edit.applyPatch (request options input) proposal.patch = .error (.unhashable .list) := by
    rw [Edit.applyPatch, ofValue_of_empty h]
    rfl
  have hparse : Reply.parse settings (request options input).reply = .ok proposal := hparse
  rw [Edit.run, hparse]
  dsimp only
  rw [hpatch]
  rfl

theorem exists_answer_of_texts (settings : Settings) (input : Input) (h : none ∉ options.allow) :
    ∃ answer, Edit.run settings (request options input) = .ok answer :=
  Edit.exists_answer (Value.toJson_ofJson _) (congrArg Value.list (map_allowedKey h))

theorem head?_message (reason : Reply.Refusal) : reason.message.head? = some (CodePoint.ofChar 'M') := by
  cases reason <;> rfl

/-- A refusal is told from a fault by its first letter. -/
theorem message_ne_notShaped (reason : Reply.Refusal) (fault : Fault) :
    Trouble.failure reason.message ≠ notShaped fault := by
  intro h
  have hhead : reason.message.head? = some (CodePoint.ofChar 'D') :=
    congrArg List.head? (Trouble.failure.inj h)
  rw [head?_message] at hhead
  exact absurd hhead (by decide)

theorem edit_eq (settings : Settings) (options : Options) (input : Input) :
    edit settings options input =
      match Edit.run settings (request options input) with
      | .error fault => .error (notShaped fault)
      | .ok (.refused reason) => .error (.failure reason.message)
      | .ok (.done report) => .ok report := rfl

/-- The command reports a fault exactly if a target is empty and the reply gives a patch. -/
theorem edit_fault_iff : (∃ fault, edit settings options input = .error (notShaped fault)) ↔
    none ∈ options.allow ∧ ∃ proposal, Reply.parse settings (some input.reply) = .ok proposal := by
  constructor
  · rintro ⟨fault, hfault⟩
    rw [edit_eq] at hfault
    cases hrun : Edit.run settings (request options input) with
    | error _ =>
      constructor
      · by_contra hnone
        obtain ⟨answer, hanswer⟩ := exists_answer_of_texts settings input hnone
        cases hrun.symm.trans hanswer
      · cases hparse : Reply.parse settings (some input.reply) with
        | ok proposal => exact ⟨proposal, rfl⟩
        | error reason =>
          have hrefused : Edit.run settings (request options input) = .ok (.refused reason) :=
            Edit.run_of_parse_error hparse
          cases hrun.symm.trans hrefused
    | ok answer =>
      rw [hrun] at hfault
      cases answer with
      | refused reason => exact absurd (Except.error.inj hfault) (message_ne_notShaped reason fault)
      | done report => cases hfault
  · rintro ⟨hnone, proposal, hparse⟩
    exact ⟨_, by rw [edit_eq, run_of_empty hnone hparse]⟩

/-- Whatever a reply is, what is said of it fits together, and an edit of a document that is JSON, under locks
    that are JSON and for target keys that are texts, ends in an answer that says the same. So the command
    reports a fault only if the reply gives a patch and an argument gives an empty target. -/
theorem answered_unless_target_empty (settings : Settings) :
    (∀ given, (Reply.record settings given).Sound settings given ∧
      ∀ (document : Json.Members) (locks : Json) (keys : List Text) (slideIndex : Option Int),
        ∃ answer, Edit.run settings ⟨given, .ofJson (.object document), .ofJson locks,
            .list (keys.map .text), slideIndex⟩ = .ok answer ∧
          (∀ reason, answer = .refused reason → (Reply.record settings given).error = some reason.message) ∧
          ∀ report, answer = .done report → (Reply.record settings given).patch = some report.patch) ∧
    ∀ {arguments : List Text} {options : Options}, Options.ofArguments arguments = .ok options →
      ∀ input : Input, (∃ fault, edit settings options input = .error (notShaped fault)) ↔
        (Reply.record settings (some input.reply)).ok = true ∧
          ∃ classified, classifyAll arguments = .ok classified ∧
            ∃ entry ∈ classified, EmptiesAllow entry.2 := by
  refine ⟨fun given => ⟨Reply.sound_record settings given, fun document locks keys slideIndex => ?_⟩,
    fun {arguments options} h input => ?_⟩
  · have hdocument := Value.toJson_ofJson (.object document)
    cases hparse : Reply.parse settings given with
    | error reason =>
      refine ⟨_, Edit.run_of_parse_error hparse, ?_, nofun⟩
      rintro _ ⟨⟩
      rw [Reply.record, hparse]
    | ok proposal =>
      obtain ⟨report, hreport⟩ : ∃ report,
          Edit.run settings ⟨given, .ofJson (.object document), .ofJson locks,
            .list (keys.map .text), slideIndex⟩ = .ok (.done report) :=
        Edit.exists_report hdocument rfl hparse
      refine ⟨_, hreport, nofun, ?_⟩
      rintro _ ⟨⟩
      obtain ⟨proposal', hparse', hpatch⟩ := Edit.run_eq_done.mp hreport
      cases hparse.symm.trans hparse'
      obtain ⟨-, -, -, -, -, -, rfl⟩ := Edit.applyPatch_eq_ok.mp hpatch
      rw [Reply.record, hparse]
  · rw [edit_fault_iff, none_mem_allow_iff h, Reply.record_ok_iff, and_comm]

def moveReply : Text :=
  "\x7b\"ops\": [\x7b\"op\": \"move\", \"objectId\": \"a\"\x7d]\x7d"

/-- Two hyphens as a target, behind another option. -/
theorem answered_unless_target_empty_group : ∃ options fault,
    Options.ofArguments ["-t", moveReply, "-d", "d.json", "-pa--"] = .ok options ∧
      edit Settings.default options ⟨moveReply, [], .null⟩ = .error (notShaped fault) ∧
      (Reply.record Settings.default (some moveReply)).ok = true := by
  obtain ⟨options, hoptions⟩ := Option.isSome_iff_exists.mp (show
    (Options.ofArguments ["-t", moveReply, "-d", "d.json", "-pa--"]).toOption.isSome by decide +kernel)
  have harguments := Reply.eq_ok_of_toOption hoptions
  have hclassified : classifyAll ["-t", moveReply, "-d", "d.json", "-pa--"] =
      .ok [("-t", .option .text true none), (moveReply, .value), ("-d", .option .document true none),
        ("d.json", .value), ("-pa--", .option .pretty true (some "a--"))] := by decide +kernel
  have hempty : EmptiesAllow (.option .pretty true (some "a--")) :=
    ⟨_, _, _, [.pretty], rfl, by decide +kernel⟩
  have hok : (Reply.record Settings.default (some moveReply)).ok = true := by decide +kernel
  obtain ⟨fault, hfault⟩ := ((answered_unless_target_empty Settings.default).2 harguments
    ⟨moveReply, [], .null⟩).mpr ⟨hok, _, hclassified, ("-pa--", _), by simp, hempty⟩
  exact ⟨options, fault, harguments, hfault, hok⟩

/-! ### A run -/

def emptyDeck : List UInt8 := [0x7B, 0x7D]

deriving instance DecidableEq for Mishap

deriving instance DecidableEq for Ending

/-- The reply gives a patch, the deck is a JSON object, and there are no locks; but the document is reported
    to be no JSON. -/
theorem fault_on_marker_target :
    let report := run (deckWorld emptyDeck) ["-t", moveReply, "-d", "d.json", "-a--"]
    report.ending = .failure ∧
      report.errors = "Error: Document is not JSON-shaped: unhashable type: 'list'\n" := by
  decide +kernel

end CommandLine
end DeckEdit
