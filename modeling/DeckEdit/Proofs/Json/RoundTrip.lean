import DeckEdit.Proofs.Json.Atom

/-! A value that fits is read back from its text, in every layout, if its floating-point numbers are read
    back from theirs. What stands between the tokens is blank, and after each token comes something that
    ends it. -/

namespace DeckEdit
namespace Json

/-! ### What stands between tokens -/

/-- A text of the blanks that are printed. -/
def Blank (t : Text) : Prop :=
  ∀ c ∈ t, c = ' ' ∨ c = '\n'

theorem Blank.nil : Blank [] := nofun

theorem Blank.space : Blank [CodePoint.ofChar ' '] :=
  fun _ hc => .inl (List.mem_singleton.mp hc)

theorem Blank.feed : Blank "\n" :=
  fun _ hc => .inr (List.mem_singleton.mp hc)

theorem Blank.isBlank {t : Text} (h : Blank t) : ∀ c ∈ t, isBlank c = true := by
  intro c hc
  rcases h c hc with rfl | rfl <;> rfl

theorem blank_lineBreak (layout : Layout) (level : Nat) : Blank (layout.lineBreak level) := by
  intro c hc
  cases layout with
  | oneLine => cases hc
  | indented width =>
    rcases List.mem_append.mp hc with hc | hc
    · exact Blank.feed c hc
    · exact .inl (List.eq_of_mem_replicate hc)

theorem exists_separator_eq (layout : Layout) (level : Nat) :
    ∃ blanks, layout.separator level = CodePoint.ofChar ',' :: blanks ∧ Blank blanks := by
  cases layout with
  | oneLine => exact ⟨_, rfl, .space⟩
  | indented width => exact ⟨_, rfl, blank_lineBreak _ level⟩

theorem skipBlanks_append {blanks : Text} (h : Blank blanks) {c : CodePoint} (hc : isBlank c = false)
    (rest : Text) : skipBlanks (blanks ++ c :: rest) = c :: rest := by
  rw [skipBlanks, List.dropWhile_append_of_pos h.isBlank, List.dropWhile_cons_of_neg (by simp [hc])]

theorem endsNumber_cons {c : CodePoint}
    (h : isDigit c = false ∧ c ≠ '.' ∧ c ≠ 'e' ∧ c ≠ 'E' ∧ c ≠ '+' ∧ c ≠ '-') (rest : Text) :
    EndsNumber (c :: rest) := by
  intro d hd
  rwa [← Option.some.inj hd]

theorem Blank.endsNumber {blanks rest : Text} (h : Blank blanks) (hrest : EndsNumber rest) :
    EndsNumber (blanks ++ rest) := by
  cases blanks with
  | nil => exact hrest
  | cons c blanks =>
    refine endsNumber_cons ?_ _
    rcases h c List.mem_cons_self with rfl | rfl <;> decide

theorem endsNumber_comma (rest : Text) : EndsNumber (CodePoint.ofChar ',' :: rest) :=
  endsNumber_cons (by decide) rest

theorem endsNumber_bracket (rest : Text) : EndsNumber (CodePoint.ofChar ']' :: rest) :=
  endsNumber_cons (by decide) rest

theorem endsNumber_brace (rest : Text) : EndsNumber (CodePoint.ofChar '}' :: rest) :=
  endsNumber_cons (by decide) rest

/-! ### Values

A text of a value starts with a code point of its own, and the value is read from it whatever ends it. The
steps that this takes are bounded by the length of the text. -/

/-- The first code point of a value. -/
def Starts (c : CodePoint) : Prop :=
  c = '"' ∨ c = '[' ∨ c = '{' ∨ Wordlike c

theorem Starts.isBlank {c : CodePoint} (h : Starts c) : Json.isBlank c = false := by
  rcases h with rfl | rfl | rfl | h
  · rfl
  · rfl
  · rfl
  · exact h.isBlank

theorem Starts.ne_closing {c : CodePoint} (h : Starts c) : c ≠ ']' ∧ c ≠ '}' := by
  constructor <;>
  · rintro rfl
    exact absurd h (by unfold Starts; decide)

theorem Starts.ne_byteOrderMark {c : CodePoint} (h : Starts c) : c ≠ '\uFEFF' := by
  rintro rfl
  exact absurd h (by unfold Starts; decide)

structure Reads (depth : Nat) (v : Json) (t : Text) : Prop where
  starts : ∃ c rest, t = c :: rest ∧ Starts c
  reads : ∀ {fuel : Nat} {rest : Text}, EndsNumber rest → 2 * t.length ≤ fuel + 1 →
    value depth fuel (t ++ rest) = .ok (v, rest)

variable {depth : Nat}

theorem Reads.length_pos {v : Json} {t : Text} (h : Reads depth v t) : 0 < t.length := by
  obtain ⟨c, rest, rfl, -⟩ := h.starts
  exact Nat.succ_pos _

theorem Reads.skipBlanks {v : Json} {t : Text} (h : Reads depth v t) {blanks : Text} (hblanks : Blank blanks)
    (rest : Text) : skipBlanks (blanks ++ (t ++ rest)) = t ++ rest := by
  obtain ⟨c, u, rfl, hc⟩ := h.starts
  exact skipBlanks_append hblanks hc.isBlank (u ++ rest)

theorem reads_atom {v : Json} {t : Text} (ht : ∀ c ∈ t, Wordlike c)
    (h : ∀ rest, EndsNumber rest → atom (t ++ rest) = .ok (v, rest)) : Reads depth v t := by
  obtain ⟨c, u, rfl⟩ : ∃ c u, t = c :: u := by
    cases t with
    | nil => cases h [] nofun
    | cons c u => exact ⟨c, u, rfl⟩
  have hc := ht c List.mem_cons_self
  refine ⟨⟨c, u, rfl, .inr (.inr (.inr hc))⟩, fun {fuel rest} hrest hfuel => ?_⟩
  obtain ⟨fuel, rfl⟩ : ∃ n, fuel = n + 1 := by
    rw [List.length_cons] at hfuel
    exact ⟨fuel - 1, by omega⟩
  rw [value_eq_atom]
  · exact h rest hrest
  · rintro d ⟨⟩
    exact hc.inert

theorem value_text (depth fuel : Nat) (t : Text) : value depth (fuel + 1) (CodePoint.ofChar '"' :: t) =
    match quoted (CodePoint.ofChar '"' :: t) false [] t with
    | .error stop => .error stop
    | .ok (s, rest) => .ok (.text s, rest) := rfl

theorem reads_quote (t : Text) : Reads depth (.text t) (quote t) := by
  have hquote := quote_append t []
  rw [List.append_nil] at hquote
  refine ⟨⟨_, _, hquote, .inl rfl⟩, fun {fuel rest} hrest hfuel => ?_⟩
  obtain ⟨fuel, rfl⟩ : ∃ n, fuel = n + 1 := by
    rw [hquote, List.length_cons] at hfuel
    exact ⟨fuel - 1, by omega⟩
  rw [quote_append, value_text, quoted_flatMap]
  rfl

/-! ### Arrays -/

theorem printItems_cons (layout : Layout) (level : Nat) (v : Json) {vs : List Json} (h : vs ≠ []) :
    printItems layout level (v :: vs) =
      printAt layout level v ++ (layout.separator level ++ printItems layout level vs) := by
  rw [printItems, if_neg (by simpa using h)]

theorem printItems_singleton (layout : Layout) (level : Nat) (v : Json) :
    printItems layout level [v] = printAt layout level v := by
  exact List.append_nil _

section
variable {layout : Layout} {level : Nat}

theorem printItems_starts {vs : List Json} (h : ∀ v ∈ vs, Reads depth v (printAt layout level v))
    (hne : vs ≠ []) : ∃ c rest, printItems layout level vs = c :: rest ∧ Starts c := by
  obtain ⟨v, vs, rfl⟩ := List.exists_cons_of_ne_nil hne
  obtain ⟨c, rest, hv, hc⟩ := (h v List.mem_cons_self).starts
  rw [printItems, hv]
  exact ⟨c, _, rfl, hc⟩

theorem items_last {v : Json} {t blanks : Text} (hv : Reads depth v t) (hblanks : Blank blanks)
    (taken : List Json) {fuel : Nat} (hfuel : 2 * t.length ≤ fuel + 1) (rest : Text) :
    items depth taken (fuel + 1) (t ++ (blanks ++ CodePoint.ofChar ']' :: rest)) =
      .ok (.array (v :: taken).reverse, rest) := by
  rw [items, hv.reads (hblanks.endsNumber (endsNumber_bracket rest)) hfuel]
  dsimp only
  rw [skipBlanks_append hblanks rfl]
  rfl

theorem items_next {v : Json} {t between : Text} (hv : Reads depth v t) (hbetween : Blank between)
    (taken : List Json) {fuel : Nat} (hfuel : 2 * t.length ≤ fuel + 1) {c : CodePoint} (hc : Starts c)
    (rest : Text) : items depth taken (fuel + 1) (t ++ CodePoint.ofChar ',' :: (between ++ c :: rest)) =
      items depth (v :: taken) fuel (c :: rest) := by
  rw [items, hv.reads (endsNumber_comma _) hfuel]
  dsimp only
  exact congrArg (items depth (v :: taken) fuel) (skipBlanks_append hbetween hc.isBlank rest)

/-- Items that are read one by one are read as the items of an array. -/
theorem items_printItems {vs : List Json} (h : ∀ v ∈ vs, Reads depth v (printAt layout level v))
    (hne : vs ≠ []) {blanks : Text} (hblanks : Blank blanks) (rest : Text) (taken : List Json) {fuel : Nat}
    (hfuel : 2 * (printItems layout level vs).length ≤ fuel) :
    items depth taken fuel (printItems layout level vs ++ (blanks ++ CodePoint.ofChar ']' :: rest)) =
      .ok (.array (taken.reverse ++ vs), rest) := by
  induction vs generalizing taken fuel with
  | nil => exact absurd rfl hne
  | cons v vs ih =>
    have hv := h v List.mem_cons_self
    have hrest := fun w hw => h w (List.mem_cons_of_mem v hw)
    have hpos := hv.length_pos
    by_cases hlast : vs = []
    · subst hlast
      rw [printItems_singleton] at hfuel ⊢
      obtain ⟨fuel, rfl⟩ : ∃ n, fuel = n + 1 := ⟨fuel - 1, by omega⟩
      rw [items_last hv hblanks taken (by omega), List.reverse_cons]
    · obtain ⟨between, hseparator, hbetween⟩ := exists_separator_eq layout level
      obtain ⟨c, later, hlater, hc⟩ := printItems_starts hrest hlast
      rw [printItems_cons layout level v hlast, hseparator] at hfuel ⊢
      simp only [List.length_append, List.length_cons] at hfuel
      obtain ⟨fuel, rfl⟩ : ∃ n, fuel = n + 1 := ⟨fuel - 1, by omega⟩
      have hlength : 2 * (printItems layout level vs).length ≤ fuel := by omega
      have hread := ih hrest hlast (v :: taken) hlength
      rw [hlater] at hread ⊢
      simp only [List.append_assoc, List.cons_append] at hread ⊢
      rw [items_next hv hbetween taken (by omega) hc, hread, List.reverse_cons, List.append_assoc,
        List.singleton_append]

theorem value_array_items {fuel : Nat} {blanks rest : Text} {c : CodePoint} (hblanks : Blank blanks)
    (hc : Starts c) : value (depth + 1) (fuel + 1) (CodePoint.ofChar '[' :: (blanks ++ c :: rest)) =
      items depth [] fuel (c :: rest) := by
  rw [Span.value_array, skipBlanks_append hblanks hc.isBlank]
  split
  · rename_i hclosing
    exact absurd (List.cons.inj hclosing).1 hc.ne_closing.1
  · rfl

theorem printAt_array {vs : List Json} (h : printItems layout (level + 1) vs ≠ []) :
    printAt layout level (.array vs) = CodePoint.ofChar '[' :: (layout.lineBreak (level + 1) ++
      (printItems layout (level + 1) vs ++ (layout.lineBreak level ++ [CodePoint.ofChar ']']))) := by
  have hopen : Text.ofString "[" = [CodePoint.ofChar '['] := rfl
  have hclose : Text.ofString "]" = [CodePoint.ofChar ']'] := rfl
  rw [printAt, Layout.enclose, if_neg (by simpa using h), hopen, hclose]
  simp only [List.append_assoc, List.cons_append, List.nil_append]

theorem reads_array {vs : List Json} (h : ∀ v ∈ vs, Reads depth v (printAt layout (level + 1) v)) :
    Reads (depth + 1) (.array vs) (printAt layout level (.array vs)) := by
  by_cases hnil : vs = []
  · subst hnil
    refine ⟨⟨_, _, rfl, .inr (.inl rfl)⟩, fun {fuel rest} hrest hfuel => ?_⟩
    obtain ⟨fuel, rfl⟩ : ∃ n, fuel = n + 1 := by
      have hlength : (printAt layout level (.array [])).length = 2 := rfl
      exact ⟨fuel - 1, by omega⟩
    rfl
  · obtain ⟨c, u, hitems, hc⟩ := printItems_starts h hnil
    have hne : printItems layout (level + 1) vs ≠ [] := by simp [hitems]
    have hprint := printAt_array hne
    refine ⟨⟨_, _, hprint, .inr (.inl rfl)⟩, fun {fuel rest} hrest hfuel => ?_⟩
    rw [hprint] at hfuel ⊢
    simp only [List.length_cons, List.length_append, List.length_nil] at hfuel
    obtain ⟨fuel, rfl⟩ : ∃ n, fuel = n + 1 := ⟨fuel - 1, by omega⟩
    have hlength : 2 * (printItems layout (level + 1) vs).length ≤ fuel := by omega
    have hread := items_printItems h hnil (blank_lineBreak layout level) rest [] hlength
    simp only [List.append_assoc, List.cons_append, List.nil_append]
    rw [hitems] at hread ⊢
    rw [List.cons_append, value_array_items (blank_lineBreak layout (level + 1)) hc]
    exact hread

/-! ### Objects -/

theorem members_text (depth fuel : Nat) (taken : List (Text × Json)) (t : Text) :
    members depth taken (fuel + 1) (CodePoint.ofChar '"' :: t) =
      match quoted (CodePoint.ofChar '"' :: t) false [] t with
      | .error stop => .error stop
      | .ok (name, rest) =>
        match skipBlanks rest with
        | ':' :: rest =>
          match value depth fuel (skipBlanks rest) with
          | .error stop => .error stop
          | .ok (v, rest) =>
            match skipBlanks rest with
            | '}' :: rest => .ok (.object (Entries.ofWrites ((name, v) :: taken).reverse), rest)
            | ',' :: rest => members depth ((name, v) :: taken) fuel (skipBlanks rest)
            | rest => .error (.defect .expectedComma rest)
        | rest => .error (.defect .expectedColon rest) := rfl

/-- The text of a member: its name, a colon, and its value. -/
def memberText (name t : Text) : Text :=
  quote name ++ (CodePoint.ofChar ':' :: CodePoint.ofChar ' ' :: t)

theorem length_le_memberText (name t : Text) : t.length ≤ (memberText name t).length := by
  simp only [memberText, List.length_append, List.length_cons]
  omega

/-- A member is read, and then what follows it is looked at. -/
theorem members_memberText {v : Json} {t after : Text} (hv : Reads depth v t) (hafter : EndsNumber after)
    (name : Text) (taken : List (Text × Json)) {fuel : Nat} (hfuel : 2 * t.length ≤ fuel + 1) :
    members depth taken (fuel + 1) (memberText name t ++ after) =
      match skipBlanks after with
      | '}' :: rest => .ok (.object (Entries.ofWrites ((name, v) :: taken).reverse), rest)
      | ',' :: rest => members depth ((name, v) :: taken) fuel (skipBlanks rest)
      | rest => .error (.defect .expectedComma rest) := by
  have hcolon : skipBlanks (CodePoint.ofChar ':' :: CodePoint.ofChar ' ' :: (t ++ after)) =
      CodePoint.ofChar ':' :: CodePoint.ofChar ' ' :: (t ++ after) := rfl
  have hspace : skipBlanks (CodePoint.ofChar ' ' :: (t ++ after)) = t ++ after := hv.skipBlanks .space after
  rw [memberText, List.append_assoc, List.cons_append, List.cons_append, quote_append, members_text,
    quoted_flatMap]
  dsimp only
  rw [hcolon]
  split
  · rename_i rest hvalue
    obtain rfl := (List.cons.inj hvalue).2
    rw [hspace, hv.reads hafter hfuel]
    rfl
  · rename_i hne
    exact absurd rfl (hne _)

theorem members_last {v : Json} {t blanks : Text} (hv : Reads depth v t) (hblanks : Blank blanks)
    (name : Text) (taken : List (Text × Json)) {fuel : Nat} (hfuel : 2 * t.length ≤ fuel + 1) (rest : Text) :
    members depth taken (fuel + 1) (memberText name t ++ (blanks ++ CodePoint.ofChar '}' :: rest)) =
      .ok (.object (Entries.ofWrites ((name, v) :: taken).reverse), rest) := by
  rw [members_memberText hv (hblanks.endsNumber (endsNumber_brace rest)) name taken hfuel,
    skipBlanks_append hblanks rfl]
  rfl

theorem members_next {v : Json} {t between : Text} (hv : Reads depth v t) (hbetween : Blank between)
    (name : Text) (taken : List (Text × Json)) {fuel : Nat} (hfuel : 2 * t.length ≤ fuel + 1) {c : CodePoint}
    (hc : Starts c) (rest : Text) :
    members depth taken (fuel + 1) (memberText name t ++ CodePoint.ofChar ',' :: (between ++ c :: rest)) =
      members depth ((name, v) :: taken) fuel (c :: rest) := by
  rw [members_memberText hv (endsNumber_comma _) name taken hfuel]
  exact congrArg (members depth ((name, v) :: taken) fuel) (skipBlanks_append hbetween hc.isBlank rest)

theorem memberText_eq (name t : Text) : quote name ++ ": " ++ t = memberText name t := by
  have hcolon : Text.ofString ": " = [CodePoint.ofChar ':', CodePoint.ofChar ' '] := rfl
  rw [memberText, hcolon, List.append_assoc]
  rfl

theorem printMembers_cons (layout : Layout) (level : Nat) (name : Text) (v : Json) {ms : List (Text × Json)}
    (h : ms ≠ []) : printMembers layout level ((name, v) :: ms) =
      memberText name (printAt layout level v) ++
        (layout.separator level ++ printMembers layout level ms) := by
  rw [printMembers, if_neg (by simpa using h), memberText_eq]

theorem printMembers_singleton (layout : Layout) (level : Nat) (name : Text) (v : Json) :
    printMembers layout level [(name, v)] = memberText name (printAt layout level v) := by
  rw [← memberText_eq]
  exact List.append_nil _

theorem printMembers_starts (layout : Layout) (level : Nat) {ms : List (Text × Json)} (hne : ms ≠ []) :
    ∃ c rest, printMembers layout level ms = c :: rest ∧ Starts c := by
  obtain ⟨⟨name, v⟩, ms, rfl⟩ := List.exists_cons_of_ne_nil hne
  rw [printMembers, memberText_eq, memberText, List.append_assoc, quote_append]
  exact ⟨_, _, rfl, .inl rfl⟩

/-- Members that are read one by one are read as the members of an object. -/
theorem members_printMembers {ms : List (Text × Json)}
    (h : ∀ member ∈ ms, Reads depth member.2 (printAt layout level member.2)) (hne : ms ≠ []) {blanks : Text}
    (hblanks : Blank blanks) (rest : Text) (taken : List (Text × Json)) {fuel : Nat}
    (hfuel : 2 * (printMembers layout level ms).length ≤ fuel) :
    members depth taken fuel (printMembers layout level ms ++ (blanks ++ CodePoint.ofChar '}' :: rest)) =
      .ok (.object (Entries.ofWrites (taken.reverse ++ ms)), rest) := by
  induction ms generalizing taken fuel with
  | nil => exact absurd rfl hne
  | cons first ms ih =>
    obtain ⟨name, v⟩ := first
    have hv : Reads depth v (printAt layout level v) := h (name, v) List.mem_cons_self
    have hrest := fun w hw => h w (List.mem_cons_of_mem (name, v) hw)
    have hpos := hv.length_pos
    by_cases hlast : ms = []
    · subst hlast
      rw [printMembers_singleton] at hfuel ⊢
      have hlength := length_le_memberText name (printAt layout level v)
      obtain ⟨fuel, rfl⟩ : ∃ n, fuel = n + 1 := ⟨fuel - 1, by omega⟩
      rw [members_last hv hblanks name taken (by omega), List.reverse_cons]
    · obtain ⟨between, hseparator, hbetween⟩ := exists_separator_eq layout level
      obtain ⟨c, later, hlater, hc⟩ := printMembers_starts layout level hlast
      have hlength := length_le_memberText name (printAt layout level v)
      rw [printMembers_cons layout level name v hlast, hseparator] at hfuel ⊢
      simp only [List.length_append, List.length_cons] at hfuel
      obtain ⟨fuel, rfl⟩ : ∃ n, fuel = n + 1 := ⟨fuel - 1, by omega⟩
      have hbound : 2 * (printMembers layout level ms).length ≤ fuel := by omega
      have hread := ih hrest hlast ((name, v) :: taken) hbound
      rw [hlater] at hread ⊢
      simp only [List.append_assoc, List.cons_append] at hread ⊢
      rw [members_next hv hbetween name taken (by omega) hc, hread, List.reverse_cons, List.append_assoc,
        List.singleton_append]

theorem value_object_members {fuel : Nat} {blanks rest : Text} {c : CodePoint} (hblanks : Blank blanks)
    (hc : Starts c) : value (depth + 1) (fuel + 1) (CodePoint.ofChar '{' :: (blanks ++ c :: rest)) =
      members depth [] fuel (c :: rest) := by
  rw [Span.value_object, skipBlanks_append hblanks hc.isBlank]
  split
  · rename_i hclosing
    exact absurd (List.cons.inj hclosing).1 hc.ne_closing.2
  · rfl

theorem printAt_object {ms : List (Text × Json)} (h : printMembers layout (level + 1) ms ≠ []) :
    printAt layout level (.object ms) = CodePoint.ofChar '{' :: (layout.lineBreak (level + 1) ++
      (printMembers layout (level + 1) ms ++ (layout.lineBreak level ++ [CodePoint.ofChar '}']))) := by
  have hopen : Text.ofString "\x7b" = [CodePoint.ofChar '{'] := rfl
  have hclose : Text.ofString "\x7d" = [CodePoint.ofChar '}'] := rfl
  rw [printAt, Layout.enclose, if_neg (by simpa using h), hopen, hclose]
  simp only [List.append_assoc, List.cons_append, List.nil_append]

theorem reads_object {ms : List (Text × Json)} (hnames : (Entries.keys ms).Nodup)
    (h : ∀ member ∈ ms, Reads depth member.2 (printAt layout (level + 1) member.2)) :
    Reads (depth + 1) (.object ms) (printAt layout level (.object ms)) := by
  by_cases hnil : ms = []
  · subst hnil
    refine ⟨⟨_, _, rfl, .inr (.inr (.inl rfl))⟩, fun {fuel rest} hrest hfuel => ?_⟩
    obtain ⟨fuel, rfl⟩ : ∃ n, fuel = n + 1 := by
      have hlength : (printAt layout level (.object [])).length = 2 := rfl
      exact ⟨fuel - 1, by omega⟩
    rfl
  · obtain ⟨c, u, hmembers, hc⟩ := printMembers_starts layout (level + 1) hnil
    have hne : printMembers layout (level + 1) ms ≠ [] := by simp [hmembers]
    have hprint := printAt_object hne
    refine ⟨⟨_, _, hprint, .inr (.inr (.inl rfl))⟩, fun {fuel rest} hrest hfuel => ?_⟩
    rw [hprint] at hfuel ⊢
    simp only [List.length_cons, List.length_append, List.length_nil] at hfuel
    obtain ⟨fuel, rfl⟩ : ∃ n, fuel = n + 1 := ⟨fuel - 1, by omega⟩
    have hlength : 2 * (printMembers layout (level + 1) ms).length ≤ fuel := by omega
    have hread := members_printMembers h hnil (blank_lineBreak layout level) rest [] hlength
    rw [List.reverse_nil, List.nil_append, Entries.ofWrites_of_nodup hnames] at hread
    simp only [List.append_assoc, List.cons_append, List.nil_append]
    rw [hmembers] at hread ⊢
    rw [List.cons_append, value_object_members (blank_lineBreak layout (level + 1)) hc]
    exact hread

end

/-! ### Whole texts -/

theorem reads_null : Reads depth .null "null" :=
  reads_atom (List.all_iff_forall_prop.mp (by decide)) fun rest _ => atom_null rest

theorem reads_bool (b : Bool) : Reads depth (.bool b) (if b then "true" else "false" : Text) := by
  refine reads_atom ?_ fun rest _ => atom_bool b rest
  cases b with
  | true => exact List.all_iff_forall_prop.mp (by decide)
  | false => exact List.all_iff_forall_prop.mp (by decide)

/-- A value that fits is read from its text, at any level of any layout. -/
theorem reads_printAt {v : Json} (h : Fits depth v) (hfloats : ∀ f ∈ v.floats, ReadsBack f)
    (layout : Layout) (level : Nat) : Reads depth v (printAt layout level v) := by
  induction h generalizing level with
  | null => exact reads_null
  | bool b => exact reads_bool b
  | int hdigits =>
    exact reads_atom wordlike_of_mem_ofInt fun rest hrest => atom_append hrest (number_ofInt hdigits)
  | float f =>
    exact reads_atom wordlike_of_mem_toText fun rest hrest =>
      atom_toText (hfloats f List.mem_cons_self) hrest
  | text t => exact reads_quote t
  | @array depth items hitems ih =>
    rw [floats, itemFloats_eq] at hfloats
    exact reads_array fun v hv =>
      ih v hv (fun f hf => hfloats f (List.mem_flatMap.mpr ⟨v, hv, hf⟩)) (level + 1)
  | @object depth members hnames hmembers ih =>
    rw [floats, memberFloats_eq] at hfloats
    exact reads_object hnames fun member hmember =>
      ih member hmember (fun f hf => hfloats f (List.mem_flatMap.mpr ⟨member, hmember, hf⟩)) (level + 1)

/-- Reading undoes printing, whatever the layout and whatever blanks follow. -/
theorem read_print {v : Json} (h : Fits maxDepth v) (hfloats : ∀ f ∈ v.floats, ReadsBack f)
    (layout : Layout) {blanks : Text} (hblanks : Blank blanks) : read (print layout v ++ blanks) = .ok v := by
  have hreads := reads_printAt h hfloats layout 0
  obtain ⟨c, t, hprint, hc⟩ := hreads.starts
  have hends : EndsNumber (blanks ++ []) := hblanks.endsNumber nofun
  rw [List.append_nil] at hends
  have hvalue : value maxDepth (2 * (c :: t ++ blanks).length + 2) (c :: t ++ blanks) = .ok (v, blanks) := by
    rw [← hprint]
    refine hreads.reads hends ?_
    rw [List.length_append]
    omega
  have hrest : skipBlanks blanks = [] := List.dropWhile_eq_nil_iff.mpr hblanks.isBlank
  have hstart : skipBlanks (c :: t ++ blanks) = c :: t ++ blanks :=
    List.dropWhile_cons_of_neg (by simp [hc.isBlank])
  have hwhole : readWhole maxDepth (c :: t ++ blanks) = .ok v := by
    unfold readWhole
    split
    · rename_i hmark
      exact absurd (List.cons.inj hmark).1 hc.ne_byteOrderMark
    · rw [hstart, hvalue]
      dsimp only
      rw [hrest]
  rw [read, readWithin, print, hprint, hwhole]
  rfl

end Json
end DeckEdit
