import DeckEdit.Proofs.CommandLine.Output

/-! What a run leaves in the files. Only a run that comes to a deck writes, and only to the file that is named
    for it. Opening that file empties it, so a deck with a surrogate, which has no form in UTF-8, takes what was
    in it; any other run that fails leaves all files as they were. Runs that fail over a print or a panel are
    left aside: what those take is up to the terminal, and not to the arguments and files. -/

namespace DeckEdit
namespace CommandLine
variable {world : World} {options : Options} {arguments : List Text}

/-- The exit code is not zero, or an exception has taken its place. -/
def Ending.Fails (ending : Ending) : Prop :=
  ending ≠ .success ∧ ending ≠ .help

/-- All files are as they were: what is written to a file is what it held. -/
def Spares (world : World) (report : Report) : Prop :=
  ∀ path bytes, (path, bytes) ∈ report.writes → world.entry path = .file bytes

/-! ### Handing over -/

section
variable {form : Json.Layout} {report : Edit.Report} {path : Path} {e : Utf8.EncodeError}

theorem deliver_of_unencodable (panels : List Panel) (houtput : options.output = some path)
    (hopened : writeProblem? world path = none)
    (hencode : Utf8.encode (Json.print form (.object report.result.deck)) = .error e) :
    (deliver world form options panels report).ending = .mishap (.unencodable e) ∧
      (deliver world form options panels report).writes = [(path, [])] := by
  simp [deliver, houtput, hopened, hencode, Report.ended]

/-- Handing over fails before the file is opened, or at the encoding of the deck. -/
theorem writes_deliver_of_fails {panels : List Panel}
    (h : (deliver world form options panels report).ending.Fails) :
    (deliver world form options panels report).writes = [] ∨
      ∃ path e, options.output = some path ∧ writeProblem? world path = none ∧
        Utf8.encode (Json.print form (.object report.result.deck)) = .error e := by
  unfold deliver at h ⊢
  dsimp only at h ⊢
  split at h
  · left
    split_ifs <;> rfl
  · rename_i path houtput
    split at h
    · exact .inl rfl
    · rename_i hopened
      split at h
      · rename_i e hencode
        exact .inr ⟨path, e, houtput, hopened, hencode⟩
      · split_ifs at h <;> exact absurd rfl h.1

end

/-! ### Surrogates -/

/-- The deck that a run hands over. -/
def Delivery.deck (d : Delivery world arguments) : Json :=
  .object d.report.result.deck

theorem le_val_of_isSurrogate {c : CodePoint} (h : c.isSurrogate = true) : 0x80 ≤ c.val := by
  have hlow : 0xD800 ≤ c.val := of_decide_eq_true (Bool.and_eq_true_iff.mp h).1
  omega

/-- A deck has no form in UTF-8 if one of its texts holds a surrogate, in whatever layout. -/
theorem encode_print_eq_error_iff (form : Json.Layout) (v : Json) :
    (∃ e, Utf8.encode (Json.print form v) = .error e) ↔ ∃ t ∈ v.texts, ∃ c ∈ t, c.isSurrogate = true := by
  rw [Utf8.encode_eq_error_iff]
  constructor
  · rintro ⟨c, hc, hsurrogate⟩
    obtain ⟨t, ht, hmem⟩ := (Json.mem_print_iff (le_val_of_isSurrogate hsurrogate) form v).mp hc
    exact ⟨t, ht, c, hmem, hsurrogate⟩
  · rintro ⟨t, ht, c, hmem, hsurrogate⟩
    exact ⟨c, (Json.mem_print_iff (le_val_of_isSurrogate hsurrogate) form v).mpr ⟨t, ht, hmem⟩, hsurrogate⟩

/-! ### Runs -/

/-- The run edits the deck and opens the file at this path for it, and a text in the deck, be it a name, holds a
    surrogate. -/
def Empties (world : World) (arguments : List Text) (path : Path) : Prop :=
  ∃ d : Delivery world arguments, d.options.output = some path ∧ writeProblem? world path = none ∧
    ∃ t ∈ d.deck.texts, ∃ c ∈ t, c.isSurrogate = true

theorem Empties.ending_writes {path : Path} (h : Empties world arguments path) :
    (∃ e, (run world arguments).ending = .mishap (.unencodable e)) ∧
      (run world arguments).writes = [(path, [])] := by
  obtain ⟨d, houtput, hopened, hsurrogate⟩ := h
  obtain ⟨e, hencode⟩ := (encode_print_eq_error_iff d.form d.deck).mpr hsurrogate
  obtain ⟨hending, hwrites⟩ :=
    deliver_of_unencodable (startPanels d.options d.input) houtput hopened hencode
  rw [d.run_eq]
  exact ⟨⟨e, hending⟩, hwrites⟩

/-- A run that fails has written nothing, or has emptied a file. -/
theorem no_writes_or_empties (h : (run world arguments).ending.Fails) :
    (run world arguments).writes = [] ∨ ∃ path, Empties world arguments path := by
  rcases delivery_or_no_writes world arguments with ⟨⟨d⟩⟩ | ⟨hnil, -⟩
  · rw [d.run_eq] at h ⊢
    refine (writes_deliver_of_fails h).imp_right ?_
    rintro ⟨path, e, houtput, hopened, hencode⟩
    exact ⟨path, d, houtput, hopened, (encode_print_eq_error_iff d.form d.deck).mp ⟨e, hencode⟩⟩
  · exact .inl hnil

/-- A run that fails leaves all files as they were, unless it comes to the point of writing a deck with a
    surrogate to a file that was not empty. Then it fails with the surrogate, and the file is left empty. -/
theorem failed_run_spares_iff (world : World) (arguments : List Text) :
    (∀ path, Empties world arguments path →
      (∃ e, (run world arguments).ending = .mishap (.unencodable e)) ∧
        (run world arguments).writes = [(path, [])]) ∧
      ((run world arguments).ending.Fails → (Spares world (run world arguments) ↔
        ∀ path, Empties world arguments path → world.entry path = .file [])) := by
  refine ⟨fun path h => h.ending_writes, fun hfails => ⟨fun hspares path hempties => ?_, fun hempty => ?_⟩⟩
  · refine hspares path [] ?_
    rw [hempties.ending_writes.2]
    exact List.mem_singleton_self _
  · intro path bytes hwrite
    -- What a failed run has written, if anything, is the emptied file.
    rcases no_writes_or_empties hfails with hnil | ⟨emptied, hempties⟩
    · rw [hnil] at hwrite
      cases hwrite
    · rw [hempties.ending_writes.2] at hwrite
      obtain ⟨rfl, rfl⟩ := Prod.mk.inj (List.mem_singleton.mp hwrite)
      exact hempty path hempties

/-- A deck with half of a surrogate pair for a title. -/
def surrogateDeck : List UInt8 :=
  ("\x7b\"t\": \"\\ud800\"\x7d" : Text).map fun c => UInt8.ofNat c.val

/-- An edit that finds no element, whose deck is written over the one that it was read from. -/
def idleInPlace : List Text :=
  ["-t", moveReply, "-d", "d.json", "-o", "d.json"]

/-- A machine with that deck. -/
def surrogateWorld : World := deckWorld surrogateDeck

theorem failed_run_spares_iff_in_place :
    (run surrogateWorld idleInPlace).ending.Fails ∧
      Empties surrogateWorld idleInPlace (Path.ofText "d.json") ∧
      ¬ Spares surrogateWorld (run surrogateWorld idleInPlace) := by
  have hending : (run surrogateWorld idleInPlace).ending =
      .mishap (.unencodable ⟨7, 1, CodePoint.ofNat 0xD800⟩) := by decide +kernel
  have hwrites : (run surrogateWorld idleInPlace).writes = [(Path.ofText "d.json", [])] := by decide +kernel
  have hfile : surrogateWorld.entry (Path.ofText "d.json") ≠ .file [] := by decide +kernel
  have hfails : (run surrogateWorld idleInPlace).ending.Fails := by
    rw [hending]
    exact ⟨nofun, nofun⟩
  have hchanged : ¬ Spares surrogateWorld (run surrogateWorld idleInPlace) := by
    intro hspares
    refine hfile (hspares _ _ ?_)
    rw [hwrites]
    exact List.mem_singleton_self _
  obtain ⟨hempties, hspares⟩ := failed_run_spares_iff surrogateWorld idleInPlace
  obtain ⟨path, hpath⟩ := not_forall.mp (mt (hspares hfails).mpr hchanged)
  obtain ⟨hempties', -⟩ := Classical.not_imp.mp hpath
  have hsame := (hempties path hempties').2
  rw [hwrites] at hsame
  obtain rfl := (Prod.mk.inj (List.cons.inj hsame).1).1
  exact ⟨hfails, hempties', hchanged⟩

end CommandLine
end DeckEdit
