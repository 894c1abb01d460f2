import DeckEdit.Proofs.Json.RoundTrip

/-! The texts in a value, and what becomes of them in the text of the value. The grammar is printed in ASCII, so
    a code point that it does not use is printed where a name or a text has it, and nowhere else. -/

namespace DeckEdit
namespace Json

mutual

/-- The texts in a value, names of members included, in the order in which they are written. -/
def texts : Json → List Text
  | text t => [t]
  | array items => itemTexts items
  | object members => memberTexts members
  | _ => []

def itemTexts : List Json → List Text
  | [] => []
  | v :: rest => texts v ++ itemTexts rest

def memberTexts : List (Text × Json) → List Text
  | [] => []
  | (name, v) :: rest => name :: (texts v ++ memberTexts rest)

end

/-! ### The grammar -/

/-- A code point that the grammar may print: in a line break, a mark, a word, a number or an escape. -/
def Syntactic (c : CodePoint) : Prop :=
  c = '\n' ∨ 0x20 ≤ c.val ∧ c.val < 0x80

instance : DecidablePred Syntactic := fun c => by
  unfold Syntactic
  infer_instance

theorem Wordlike.syntactic {c : CodePoint} (h : Wordlike c) : Syntactic c := by
  unfold Wordlike at h
  exact .inr (by omega)

theorem Blank.syntactic {t : Text} (h : Blank t) : ∀ c ∈ t, Syntactic c := by
  intro c hc
  rcases h c hc with rfl | rfl <;> decide

theorem syntactic_digitChar : ∀ n < 16, Syntactic (CodePoint.ofChar (Nat.digitChar n)) := by
  decide

/-- A code point stands for itself, or it is escaped. -/
theorem escaped_eq_or_syntactic (c : CodePoint) : escaped c = [c] ∨ ∀ d ∈ escaped c, Syntactic d := by
  unfold escaped
  split_ifs with hquote hescape hfeed hreturn htab hform hback hcontrol
  · exact .inr (List.all_iff_forall_prop.mp (by decide))
  · exact .inr (List.all_iff_forall_prop.mp (by decide))
  · exact .inr (List.all_iff_forall_prop.mp (by decide))
  · exact .inr (List.all_iff_forall_prop.mp (by decide))
  · exact .inr (List.all_iff_forall_prop.mp (by decide))
  · exact .inr (List.all_iff_forall_prop.mp (by decide))
  · exact .inr (List.all_iff_forall_prop.mp (by decide))
  · -- The other control characters are spelt in four digits.
    have hdigit (n : Nat) := syntactic_digitChar (n % 16) (Nat.mod_lt n (by decide))
    have hmark : ∀ d ∈ Text.ofString "\\u", Syntactic d := List.all_iff_forall_prop.mp (by decide)
    right
    rw [hexDigits_four]
    intro d hd
    rcases List.mem_append.mp hd with hd | hd
    · exact hmark d hd
    · simp only [List.mem_cons, List.not_mem_nil, or_false] at hd
      rcases hd with rfl | rfl | rfl | rfl <;> exact hdigit _
  · exact .inl rfl

theorem escaped_eq_self {c : CodePoint} (h : 0x80 ≤ c.val) : escaped c = [c] := by
  have hne (d : Char) (hd : (CodePoint.ofChar d).val < 0x80) : c ≠ CodePoint.ofChar d := by
    rintro rfl
    omega
  rw [escaped, if_neg (hne _ (by decide)), if_neg (hne _ (by decide)), if_neg (hne _ (by decide)),
    if_neg (hne _ (by decide)), if_neg (hne _ (by decide)), if_neg (by omega), if_neg (by omega),
    if_neg (by omega)]

section
variable {c : CodePoint} (hc : ¬ Syntactic c)
include hc

theorem notMem_of_syntactic {t : Text} (h : ∀ d ∈ t, Syntactic d) : c ∉ t :=
  fun hmem => hc (h c hmem)

theorem mem_escaped_iff (d : CodePoint) : c ∈ escaped d ↔ c = d ∧ escaped c = [c] := by
  constructor
  · intro hmem
    rcases escaped_eq_or_syntactic d with hself | hescape
    · rw [hself, List.mem_singleton] at hmem
      exact ⟨hmem, hmem ▸ hself⟩
    · exact absurd hmem (notMem_of_syntactic hc hescape)
  · rintro ⟨rfl, hself⟩
    rw [hself]
    exact List.mem_singleton_self c

theorem mem_quote_iff (t : Text) : c ∈ quote t ↔ c ∈ t ∧ escaped c = [c] := by
  have hmark : c ∉ Text.ofString "\"" := notMem_of_syntactic hc (List.all_iff_forall_prop.mp (by decide))
  simp [quote, hmark, mem_escaped_iff hc]

theorem notMem_separator (layout : Layout) (level : Nat) : c ∉ layout.separator level := by
  obtain ⟨blanks, hseparator, hblanks⟩ := exists_separator_eq layout level
  rw [hseparator]
  refine notMem_of_syntactic hc fun d hd => ?_
  rcases List.mem_cons.mp hd with rfl | hd
  · decide
  · exact hblanks.syntactic d hd

theorem mem_enclose_iff {opening closing : Text} (hopening : ∀ d ∈ opening, Syntactic d)
    (hclosing : ∀ d ∈ closing, Syntactic d) (layout : Layout) (level : Nat) (items : Text) :
    c ∈ layout.enclose level opening closing items ↔ c ∈ items := by
  have hends := And.intro (notMem_of_syntactic hc hopening) (notMem_of_syntactic hc hclosing)
  have hbreak (level : Nat) := notMem_of_syntactic hc (blank_lineBreak layout level).syntactic
  unfold Layout.enclose
  split
  · rename_i hitems
    simp [hends, List.isEmpty_iff.mp hitems]
  · simp [hends, hbreak]

/-! ### Values -/

mutual

/-- What the grammar does not print comes from a text. -/
theorem mem_printAt_iff (layout : Layout) (level : Nat) :
    ∀ v : Json, c ∈ printAt layout level v ↔ ∃ t ∈ v.texts, c ∈ quote t
  | .null => by
    have hword : c ∉ Text.ofString "null" := notMem_of_syntactic hc (List.all_iff_forall_prop.mp (by decide))
    simp [printAt, texts, hword]
  | .bool true => by
    have hword : c ∉ Text.ofString "true" := notMem_of_syntactic hc (List.all_iff_forall_prop.mp (by decide))
    simp [printAt, texts, hword]
  | .bool false => by
    have hword : c ∉ Text.ofString "false" := notMem_of_syntactic hc (List.all_iff_forall_prop.mp (by decide))
    simp [printAt, texts, hword]
  | .int i => by
    have hnumber := notMem_of_syntactic hc fun d hd => (wordlike_of_mem_ofInt (i := i) d hd).syntactic
    simp [printAt, texts, hnumber]
  | .float f => by
    have hnumber := notMem_of_syntactic hc fun d hd => (wordlike_of_mem_toText (f := f) d hd).syntactic
    simp [printAt, texts, hnumber]
  | .text t => by simp [printAt, texts]
  | .array vs => by
    rw [printAt, mem_enclose_iff hc (List.all_iff_forall_prop.mp (by decide)) (List.all_iff_forall_prop.mp (by decide)), texts]
    exact mem_printItems_iff layout (level + 1) vs
  | .object ms => by
    rw [printAt, mem_enclose_iff hc (List.all_iff_forall_prop.mp (by decide)) (List.all_iff_forall_prop.mp (by decide)), texts]
    exact mem_printMembers_iff layout (level + 1) ms

theorem mem_printItems_iff (layout : Layout) (level : Nat) :
    ∀ vs : List Json, c ∈ printItems layout level vs ↔ ∃ t ∈ itemTexts vs, c ∈ quote t
  | [] => by simp [printItems, itemTexts]
  | v :: vs => by
    have hv := mem_printAt_iff layout level v
    have hvs := mem_printItems_iff layout level vs
    rw [printItems, itemTexts]
    split
    · rename_i hlast
      obtain rfl := List.isEmpty_iff.mp hlast
      simp [hv, itemTexts]
    · simp [hv, hvs, notMem_separator hc, or_and_right, exists_or]

theorem mem_printMembers_iff (layout : Layout) (level : Nat) :
    ∀ ms : List (Text × Json), c ∈ printMembers layout level ms ↔ ∃ t ∈ memberTexts ms, c ∈ quote t
  | [] => by simp [printMembers, memberTexts]
  | (name, v) :: ms => by
    have hv := mem_printAt_iff layout level v
    have hms := mem_printMembers_iff layout level ms
    have hcolon : c ∉ Text.ofString ": " := notMem_of_syntactic hc (List.all_iff_forall_prop.mp (by decide))
    rw [printMembers, memberTexts]
    split
    · rename_i hlast
      obtain rfl := List.isEmpty_iff.mp hlast
      simp [hv, hcolon, memberTexts]
    · simp [hv, hms, hcolon, notMem_separator hc, or_and_right, exists_or]

end

end

/-- Beyond ASCII, what is printed is what the texts hold, in every layout. -/
theorem mem_print_iff {c : CodePoint} (h : 0x80 ≤ c.val) (layout : Layout) (v : Json) :
    c ∈ print layout v ↔ ∃ t ∈ v.texts, c ∈ t := by
  have hc : ¬ Syntactic c := by
    rintro (rfl | hascii)
    · exact absurd h (by decide)
    · omega
  rw [print, mem_printAt_iff hc]
  simp only [mem_quote_iff hc, escaped_eq_self h, and_true]

/-- A carriage return in a value is escaped in its text. -/
theorem return_notMem_printAt (layout : Layout) (level : Nat) (v : Json) :
    CodePoint.ofChar '\r' ∉ printAt layout level v := by
  have hc : ¬ Syntactic (CodePoint.ofChar '\r') := by decide
  rw [mem_printAt_iff hc]
  rintro ⟨t, -, hmem⟩
  exact absurd ((mem_quote_iff hc t).mp hmem).2 (by decide)

end Json
end DeckEdit
