import DeckEdit.Proofs.CommandLine.Fault
import DeckEdit.Proofs.Edit.Fits
import DeckEdit.Proofs.Json.Texts
import DeckEdit.Proofs.Text.Utf8

/-! What the command hands over, and that it loses nothing. A run that ends well reads its files, carries out
    the edit and lays the deck out; the text that it prints or writes is read again as the same deck. -/

namespace DeckEdit
namespace CommandLine
variable {world : World} {settings : Settings} {options : Options} {input : Input} {arguments : List Text}

/-! ### Runs that come to a deck -/

/-- What a run goes through that reads its input, edits the deck and has a layout for it. -/
structure Delivery (world : World) (arguments : List Text) where
  settings : Settings
  options : Options
  input : Input
  report : Edit.Report
  form : Json.Layout
  settings_eq : loadSettings world = .ok settings
  options_eq : Options.ofArguments arguments = .ok options
  isLevel : levels.contains settings.logLevel.toUpper = true
  input_eq : readInput world options = .ok input
  report_eq : edit settings options input = .ok report
  form_eq : layout settings options = .ok form

theorem Delivery.run_eq (d : Delivery world arguments) : run world arguments =
    deliver world d.form d.options (startPanels d.options d.input) d.report := by
  simp only [run, carryOut, d.settings_eq, d.options_eq, d.input_eq, d.report_eq, d.form_eq,
    if_pos d.isLevel]

theorem ending_stop_ne_success (options : Options) (panels : List Panel) (trouble : Trouble) :
    (stop options panels trouble).ending ≠ .success := by
  intro h
  cases trouble with
  | mishap m => cases h
  | failure message =>
    simp only [stop] at h
    split at h <;> cases h

/-- A run that does not come to a deck writes nothing, and does not end well. -/
theorem delivery_or_no_writes (world : World) (arguments : List Text) :
    Nonempty (Delivery world arguments) ∨
      (run world arguments).writes = [] ∧ (run world arguments).ending ≠ .success := by
  have hstop (options : Options) (panels : List Panel) (trouble : Trouble) :=
    And.intro (writes_stop options panels trouble) (ending_stop_ne_success options panels trouble)
  unfold run
  split
  · exact .inr ⟨rfl, nofun⟩
  · rename_i settings hsettings
    split
    · exact .inr ⟨rfl, nofun⟩
    · exact .inr ⟨rfl, nofun⟩
    · rename_i options hoptions
      dsimp only
      split
      · rename_i hlevel
        unfold carryOut
        split
        · exact .inr (hstop _ _ _)
        · rename_i input hinput
          dsimp only
          split
          · exact .inr (hstop _ _ _)
          · rename_i report hreport
            split
            · exact .inr (hstop _ _ _)
            · rename_i form hform
              exact .inl ⟨⟨settings, options, input, report, form, hsettings, hoptions, hlevel, hinput, hreport,
                hform⟩⟩
      · exact .inr ⟨rfl, nofun⟩

theorem run_of_success (h : (run world arguments).ending = .success) : ∃ settings options input report form,
    loadSettings world = .ok settings ∧ Options.ofArguments arguments = .ok options ∧
      readInput world options = .ok input ∧ edit settings options input = .ok report ∧
      run world arguments = deliver world form options (startPanels options input) report := by
  rcases delivery_or_no_writes world arguments with ⟨⟨d⟩⟩ | ⟨-, hne⟩
  · exact ⟨d.settings, d.options, d.input, d.report, d.form, d.settings_eq, d.options_eq, d.input_eq,
      d.report_eq, d.run_eq⟩
  · exact absurd h hne

theorem edit_eq_ok {report : Edit.Report} : edit settings options input = .ok report ↔
    Edit.run settings (request options input) = .ok (.done report) := by
  rw [edit_eq]
  split <;> simp_all

/-! ### Files -/

theorem bind_eq_ok {ε α β : Type} {a : Except ε α} {f : α → Except ε β} {b : β} :
    a >>= f = .ok b ↔ ∃ x, a = .ok x ∧ f x = .ok b := by
  cases a <;> simp [bind, Except.bind]

theorem exists_read_of_readJson {path : Path} {role inside : Text} {v : Json}
    (h : readJson world path role inside = .ok v) : ∃ t, Json.read t = .ok v := by
  obtain ⟨t, -, h⟩ := bind_eq_ok.mp h
  split at h
  · rename_i w hread
    cases h
    exact ⟨t, hread⟩
  · cases h
  · cases h

theorem exists_read_of_readInput (h : readInput world options = .ok input) :
    ∃ t, Json.read t = .ok (.object input.document) := by
  obtain ⟨reply, -, h⟩ := bind_eq_ok.mp h
  obtain ⟨path, -, h⟩ := bind_eq_ok.mp h
  obtain ⟨v, hdocument, h⟩ := bind_eq_ok.mp h
  split at h
  · dsimp only at h
    split at h
    all_goals
      obtain ⟨locks, -, h⟩ := bind_eq_ok.mp h
      cases h
      exact exists_read_of_readJson hdocument
  · cases h

/-- A text without carriage returns that is written to a file is read from it. -/
theorem readContents_of_encode {t : Text} {bytes : List UInt8} {v : Json} (h : Utf8.encode t = .ok bytes)
    (hreturn : CodePoint.ofChar '\r' ∉ t) (hread : Json.read t = .ok v) : readContents bytes = .ok v := by
  rw [readContents, Utf8.decode_of_encode h]
  dsimp only
  rw [Text.normalizeLines_eq_self hreturn, hread]
  rfl

/-! ### The deck that is handed over -/

/-- A run that ends well makes a deck that the reader can give. -/
theorem fits_of_edit {report : Edit.Report} (hinput : readInput world options = .ok input)
    (hreport : edit settings options input = .ok report) :
    Json.Fits Json.maxDepth (.object report.result.deck) := by
  obtain ⟨t, hread⟩ := exists_read_of_readInput hinput
  exact Edit.fits_of_run (edit_eq_ok.mp hreport) rfl (Json.fits_of_readWithin hread)

theorem output_deliver {form : Json.Layout} {panels : List Panel} {report : Edit.Report}
    (houtput : options.output = none) (hpanels : options.showsPanels = false) :
    (deliver world form options panels report).output =
      Json.print form (.object report.result.deck) ++ "\n" := by
  simp [deliver, houtput, hpanels]

theorem writes_deliver {form : Json.Layout} {panels : List Panel} {report : Edit.Report} {path : Path}
    (houtput : options.output = some path)
    (h : (deliver world form options panels report).ending = .success) :
    ∃ bytes, Utf8.encode (Json.print form (.object report.result.deck)) = .ok bytes ∧
      (deliver world form options panels report).writes = [(path, bytes)] := by
  rw [deliver] at h ⊢
  simp only [houtput] at h ⊢
  split at h
  · cases h
  · split at h
    · cases h
    · rename_i bytes hbytes
      refine ⟨bytes, hbytes, ?_⟩
      split_ifs <;> rfl

/-- A run that ends well hands over the deck that the edit ends in, and loses nothing of it: the text that it
    prints, or the file that it writes, is read as that deck again, whatever the layout, if the text of each
    floating-point number in it is read as that number. -/
theorem handed_over_reads_back (h : (run world arguments).ending = .success) :
    ∃ settings options input answer next,
      loadSettings world = .ok settings ∧ Options.ofArguments arguments = .ok options ∧
      readInput world options = .ok input ∧ Edit.run settings (request options input) = .ok answer ∧
      answer.nextDocument (request options input).document = Value.ofJson next ∧
      ((∀ f ∈ next.floats, Json.ReadsBack f) →
        (options.output = none → options.showsPanels = false →
          Json.read (run world arguments).output = .ok next) ∧
        ∀ path, options.output = some path → ∃ bytes, (run world arguments).writes = [(path, bytes)] ∧
          ∀ later : World, later.entry path = .file bytes →
            ∀ role inside, readJson later path role inside = .ok next) := by
  obtain ⟨settings, options, input, report, form, hsettings, hoptions, hinput, hreport, hrun⟩ :=
    run_of_success h
  refine ⟨settings, options, input, .done report, .object report.result.deck, hsettings, hoptions, hinput,
    edit_eq_ok.mp hreport, rfl, fun hfloats => ?_⟩
  have hfits := fits_of_edit hinput hreport
  rw [hrun] at h ⊢
  constructor
  · intro houtput hpanels
    rw [output_deliver houtput hpanels]
    exact Json.read_print hfits hfloats form .feed
  · intro path houtput
    obtain ⟨bytes, hbytes, hwrites⟩ := writes_deliver houtput h
    have hread := Json.read_print hfits hfloats form .nil
    rw [List.append_nil] at hread
    have hcontents := readContents_of_encode hbytes (Json.return_notMem_printAt form 0 _) hread
    refine ⟨bytes, hwrites, fun later hfile role inside => ?_⟩
    rw [readJson_eq hfile, hcontents]
    rfl

/-- A deck with a fraction, with empty containers, and with all that needs an escape. -/
def richDeck : List UInt8 :=
  ("\x7b\"slides\": [\x7b\"objects\": [\x7b\"id\": \"a\", \"x\": 0.5, \"text\": \"\"\x7d]\x7d], " ++
    "\"notes\": [\"\\u00e9\\u0001\\r\\n\\\"\\\\\", \x7b\x7d, [], null, true, -7]\x7d" : Text).map
      fun c => UInt8.ofNat c.val

/-- A machine with that deck, on which lines are not indented. -/
def flushWorld : World := { deckWorld richDeck with environment := [("OUTPUT_INDENT", "0")] }

/-- An edit whose deck is written over the one that it was read from. -/
def inPlace : List Text :=
  ["-t", "\x7b\"ops\": [\x7b\"op\": \"set_text\", \"objectId\": \"a\", \"slideIndex\": 1, " ++
    "\"text\": \"one\\ttwo\"\x7d]\x7d", "-d", "d.json", "-o", "d.json", "-p"]

theorem handed_over_reads_back_in_place : ∃ next bytes,
    next.floats = [.finite false (2 ^ 52) (-53)] ∧
      (run flushWorld inPlace).writes = [(Path.ofText "d.json", bytes)] ∧
      readJson (deckWorld bytes) (Path.ofText "d.json") "Document" "document" = .ok next := by
  have hsuccess : (run flushWorld inPlace).ending = .success := by decide +kernel
  obtain ⟨settings, options, input, answer, next, hsettings, hoptions, hinput, hanswer, hnext, hreads⟩ :=
    handed_over_reads_back hsuccess
  have hgiven : (loadSettings flushWorld).toOption.bind (fun settings =>
      (Options.ofArguments inPlace).toOption.bind fun options =>
      (readInput flushWorld options).toOption.bind fun input =>
      (Edit.report? (Edit.run settings (request options input))).map fun report =>
        (options.output, (Json.object report.result.deck).floats)) =
      some (some (Path.ofText "d.json"), [.finite false (2 ^ 52) (-53)]) := by decide +kernel
  simp only [hsettings, hoptions, hinput, hanswer, Except.toOption, Option.bind_some] at hgiven
  obtain ⟨report, hreport, hpair⟩ := Option.map_eq_some_iff.mp hgiven
  obtain ⟨houtput, hfloats⟩ := Prod.mk.inj hpair
  cases Edit.report?_eq_some.mp hreport
  obtain rfl := Value.ofJson_injective hnext
  have hback : ∀ f ∈ (Json.object report.result.deck).floats, Json.ReadsBack f := by
    rw [hfloats]
    rintro _ (_ | ⟨_, ⟨⟩⟩)
    rfl
  obtain ⟨bytes, hwrites, hlater⟩ := (hreads hback).2 _ houtput
  exact ⟨_, bytes, hfloats, hwrites, hlater (deckWorld bytes) (by simp [deckWorld]) _ _⟩

end CommandLine
end DeckEdit
