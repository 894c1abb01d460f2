import DeckEdit.CommandLine.Run
import DeckEdit.Proofs.Edit.Truncated

/-! Files that are no JSON. The command reports one in which a rule of the grammar is broken. Bytes that are
    no UTF-8, a numeral with too many digits and values that nest too deep it does not put into words: they
    end it as a mishap. -/

namespace DeckEdit
namespace CommandLine
variable {world : World} {settings : Settings} {options : Options} {path : Path} {contents : List UInt8}

/-! ### Contents -/

/-- Why contents cannot be read as JSON. -/
inductive Flaw where
  | notUtf8 (e : Utf8.DecodeError)
  | notJson (e : Json.ReadError)

/-- The value that the contents of a file spell. -/
def readContents (contents : List UInt8) : Except Flaw Json :=
  match Utf8.decode contents with
  | .error e => .error (.notUtf8 e)
  | .ok t => (Json.read t.normalizeLines).mapError .notJson

/-- A rule of the grammar is broken. -/
def Flaw.BreaksGrammar : Flaw → Prop
  | .notJson (.malformed ..) => True
  | _ => False

/-- What a flaw comes to, in a file that is named by `inside`. -/
def Flaw.trouble (inside : Text) : Flaw → Trouble
  | .notUtf8 e => .mishap (.undecodable e)
  | .notJson (.malformed d place) =>
    .failure ("Invalid " ++ inside ++ " JSON: " ++ (Json.ReadError.malformed d place).message)
  | .notJson e => .mishap (.beyondLimit e)

theorem Flaw.trouble_failure_iff {inside : Text} {flaw : Flaw} :
    (∃ message, flaw.trouble inside = .failure message) ↔ flaw.BreaksGrammar := by
  cases flaw with
  | notUtf8 e => simp [trouble, BreaksGrammar]
  | notJson e => cases e <;> simp [trouble, BreaksGrammar]

theorem readJson_eq (hfile : world.entry path = .file contents) (role inside : Text) :
    readJson world path role inside = (readContents contents).mapError (Flaw.trouble inside) := by
  rw [readJson, readFile, hfile, readContents]
  dsimp only
  rw [decodeFile]
  cases Utf8.decode contents with
  | error e => rfl
  | ok t =>
    simp only [bind, Except.bind]
    cases Json.read t.normalizeLines with
    | ok v => rfl
    | error e => cases e <;> rfl

/-! ### Files -/

/-- The command comes to read these contents: those of the deck, or those of the locks if the deck is an
    object. -/
inductive Consulted (world : World) (options : Options) : Text → List UInt8 → Prop where
  | document {path : Path} {contents : List UInt8} (hpath : options.document = some path)
      (hfile : world.entry path = .file contents) : Consulted world options "document" contents
  | locks {deckPath path : Path} {deck contents : List UInt8} {members : Json.Members}
      (hdeckPath : options.document = some deckPath) (hdeckFile : world.entry deckPath = .file deck)
      (hdeck : readContents deck = .ok (.object members)) (hpath : options.locks = some path)
      (hfile : world.entry path = .file contents) : Consulted world options "locks" contents

/-- What is wrong with the reply comes first, and then what is wrong with the files. -/
theorem readInput_of_flaw {inside : Text} {flaw : Flaw} (hconsulted : Consulted world options inside contents)
    (hflaw : readContents contents = .error flaw) :
    readInput world options = .error (match readReply world options.source with
      | .error trouble => trouble
      | .ok _ => flaw.trouble inside) := by
  cases hreply : readReply world options.source with
  | error trouble =>
    rw [readInput, hreply]
    rfl
  | ok reply =>
    cases hconsulted with
    | document hpath hfile =>
      simp only [readInput, hreply, hpath, needed, readJson_eq hfile, hflaw, bind, Except.bind]
      rfl
    | locks hdeckPath hdeckFile hdeck hpath hfile =>
      simp only [readInput, hreply, hdeckPath, needed, readJson_eq hdeckFile, hdeck, hpath,
        readJson_eq hfile, hflaw, bind, Except.bind]
      rfl

/-! ### Endings -/

theorem ending_stop_iff {panels : List Panel} {trouble : Trouble} :
    (stop options panels trouble).ending = .failure ↔ ∃ message, trouble = .failure message := by
  cases trouble with
  | mishap m => simp [stop, Report.ended]
  | failure message =>
    simp only [stop]
    split <;> simp [Report.ended]

theorem writes_stop (options : Options) (panels : List Panel) (trouble : Trouble) :
    (stop options panels trouble).writes = [] := by
  cases trouble with
  | mishap m => rfl
  | failure message =>
    simp only [stop]
    split <;> rfl

/-- A run that cannot read its input stops with what keeps it from reading. -/
theorem run_of_readInput {arguments : List Text} {trouble : Trouble}
    (hsettings : loadSettings world = .ok settings) (hoptions : Options.ofArguments arguments = .ok options)
    (hinput : readInput world options = .error trouble) :
    run world arguments =
      if levels.contains settings.logLevel.toUpper then stop options [] trouble
      else Report.ended (.mishap (.unknownLevel settings.logLevel.toUpper)) := by
  simp only [run, hsettings, hoptions, carryOut, hinput]

/-- A run on a deck or on locks that are no JSON changes no file. If the reply can be read, and the level for
    log records is one, the run ends as the flaw of the contents says. So it ends with a failure that it
    reports only if a rule of the grammar is broken, or if the reply was missing before. -/
theorem unreadable_reported_iff {arguments : List Text} {inside : Text} {flaw : Flaw}
    (hsettings : loadSettings world = .ok settings) (hoptions : Options.ofArguments arguments = .ok options)
    (hconsulted : Consulted world options inside contents) (hflaw : readContents contents = .error flaw) :
    (run world arguments).writes = [] ∧
      (levels.contains settings.logLevel.toUpper = true →
        (∃ reply, readReply world options.source = .ok reply) →
          run world arguments = stop options [] (flaw.trouble inside)) ∧
      ((run world arguments).ending = .failure ↔ levels.contains settings.logLevel.toUpper = true ∧
        ((∃ message, readReply world options.source = .error (.failure message)) ∨
          (∃ reply, readReply world options.source = .ok reply) ∧ flaw.BreaksGrammar)) := by
  have hinput := readInput_of_flaw hconsulted hflaw
  rw [run_of_readInput hsettings hoptions hinput]
  by_cases hlevel : levels.contains settings.logLevel.toUpper = true
  · rw [if_pos hlevel, ending_stop_iff]
    refine ⟨writes_stop _ _ _, ?_, ?_⟩
    · rintro - ⟨reply, hreply⟩
      rw [hreply]
    · rw [and_iff_right hlevel]
      cases readReply world options.source with
      | error trouble => simp
      | ok reply => simp [Flaw.trouble_failure_iff]
  · rw [if_neg hlevel]
    refine ⟨rfl, fun h => absurd h hlevel, iff_of_false nofun fun h => hlevel h.1⟩

/-- A machine with a deck in the working directory. -/
def deckWorld (contents : List UInt8) : World where
  environment := []
  entry path := if path = Path.ofText "d.json" then .file contents else .vacant

/-- A deck that breaks off in a member's name, with a byte that starts no character. -/
def brokenDeck : List UInt8 := [0x7B, 0x22, 0xFF]

theorem unreadable_reported_iff_bytes :
    let e : Utf8.DecodeError := ⟨.invalidStart, 2, 1, 0xFF⟩
    readContents brokenDeck = .error (.notUtf8 e) ∧
      (run (deckWorld brokenDeck) ["-t", [], "-d", "d.json"]).ending = .mishap (.undecodable e) ∧
      (run (deckWorld brokenDeck) ["-t", [], "-d", "d.json"]).ending ≠ .failure := by
  intro e
  obtain ⟨settings, hsettings, hlevel⟩ := (Option.any_eq_true _ _).mp (show
    (loadSettings (deckWorld brokenDeck)).toOption.any
      (fun settings => levels.contains settings.logLevel.toUpper) = true by decide +kernel)
  obtain ⟨options, hoptions, hgiven⟩ := (Option.any_eq_true _ _).mp (show
    (Options.ofArguments ["-t", [], "-d", "d.json"]).toOption.any
      (fun options => options.source = .given [] ∧ options.document = some (Path.ofText "d.json")) = true
    by decide +kernel)
  obtain ⟨hsource, hpath⟩ := of_decide_eq_true hgiven
  have hflaw : readContents brokenDeck = .error (.notUtf8 e) := rfl
  have hreply : readReply (deckWorld brokenDeck) options.source = .ok [] := by
    rw [hsource]
    rfl
  have hfile : (deckWorld brokenDeck).entry (Path.ofText "d.json") = .file brokenDeck := by simp [deckWorld]
  obtain ⟨-, hstop, hfailure⟩ := unreadable_reported_iff (Reply.eq_ok_of_toOption hsettings)
    (Reply.eq_ok_of_toOption hoptions) (.document hpath hfile) hflaw
  refine ⟨hflaw, ?_, ?_⟩
  · rw [hstop hlevel ⟨[], hreply⟩]
    rfl
  · rw [Ne, hfailure]
    rintro ⟨-, ⟨message, hmessage⟩ | ⟨-, hgrammar⟩⟩
    · cases hreply.symm.trans hmessage
    · exact hgrammar

end CommandLine
end DeckEdit
