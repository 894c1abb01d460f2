import DeckEdit.Proofs.Span.Prose

/-! Which span is found, said without a scan: the text in front of it opens no pair, and of the pair that
    opens it, counted outside string literals, more delimiters open than close up to its last code point,
    where as many have closed. A text has at most one such span. -/

namespace DeckEdit
namespace Span

/-! ### String literals -/

/-- What stands behind a string literal, from its first code point on: nothing if no quotation mark closes
    it. A backslash takes the code point behind it with it, whichever that is. -/
def afterLiteral : Text → Text
  | [] => []
  | [_] => []
  | c :: d :: rest =>
    if c = '"' then d :: rest
    else if c = '\\' then afterLiteral rest
    else afterLiteral (d :: rest)

theorem length_afterLiteral_le (t : Text) : (afterLiteral t).length ≤ t.length := by
  induction t using afterLiteral.induct with
  | case1 => simp [afterLiteral]
  | case2 => simp [afterLiteral]
  | case3 d rest => simp [afterLiteral]
  | case4 d rest _ ih =>
    rw [afterLiteral, if_neg (by assumption), if_pos rfl]
    exact ih.trans (by simp; omega)
  | case5 c d rest hquote hescape ih =>
    rw [afterLiteral, if_neg hquote, if_neg hescape]
    exact ih.trans (by simp)

/-- The code points of a text that stand outside string literals. -/
def outside : Text → Text
  | [] => []
  | c :: rest => if c = '"' then outside (afterLiteral rest) else c :: outside rest
termination_by t => t.length
decreasing_by
  · exact Nat.lt_succ_of_le (length_afterLiteral_le rest)
  · exact Nat.lt_succ_self rest.length

-- A closing brace and an opening one behind an escaped mark are inside, the brackets are not.
example : outside "[\"\x7d\\\"\x7b\"]" = "[]" := by decide +kernel

/-! ### The span of a text -/

/-- A text that opens a pair and closes it with its last code point. Other delimiters do not count. -/
structure Balanced (pair : Pair) (span : Text) : Prop where
  opens : span.head? = some pair.opening
  stays : ∀ first : Text, first <+: span → first ≠ [] → first ≠ span →
    (outside first).count pair.closing < (outside first).count pair.opening
  closes : (outside span).count pair.opening = (outside span).count pair.closing

/-- A text as a part that opens no pair, a span and a part after it. -/
structure Split (t : Text) where
  before : Text
  span : Text
  after : Text
  whole : t = before ++ span ++ after
  closed : ∀ pair : Pair, pair.opening ∉ before
  balanced : ∃ pair, Balanced pair span

/-! ### The scan outside literals -/

/-- The code points of a text that the scan meets outside literals, the marks that open one among them. -/
def structural : Mode → Text → Text
  | _, [] => []
  | mode, c :: rest =>
    if mode = .plain then c :: structural (mode.next c) rest else structural (mode.next c) rest

theorem structural_cons (mode : Mode) (c : CodePoint) (rest : Text) : structural mode (c :: rest) =
    if mode = .plain then c :: structural (mode.next c) rest else structural (mode.next c) rest := rfl

/-- The scan leaves a literal where the literal ends. -/
theorem structural_quoted (t : Text) : structural .quoted t = structural .plain (afterLiteral t) := by
  induction t using afterLiteral.induct with
  | case1 => rfl
  | case2 c => rfl
  | case3 d rest => rfl
  | case4 d rest _ ih => exact ih
  | case5 c d rest hquote hescape ih =>
    rw [afterLiteral, if_neg hquote, if_neg hescape, ← ih, structural]
    simp [Mode.next, hquote, hescape]

theorem count_outside {c : CodePoint} (hc : c ≠ '"') (t : Text) :
    (outside t).count c = (structural .plain t).count c := by
  induction t using outside.induct with
  | case1 => simp [outside, structural]
  | case2 rest ih =>
    rw [outside, if_pos rfl, ih, ← structural_quoted, structural, if_pos rfl,
      List.count_cons_of_ne (Ne.symm hc)]
    rfl
  | case3 d rest hquote ih =>
    rw [outside, if_neg hquote, structural, if_pos rfl, List.count_cons, List.count_cons, ih]
    simp [Mode.next, hquote]

section
variable {pair : Pair} {mode : Mode} {depth : Nat}

/-- How many pairs are open after a text, counted over the whole of it. -/
def height (pair : Pair) (mode : Mode) (depth : Nat) (t : Text) : Int :=
  depth + (structural mode t).count pair.opening - (structural mode t).count pair.closing

theorem height_nil : height pair mode depth [] = depth := by
  simp [height, structural]

/-- As long as a pair is open, the scan keeps the count. -/
theorem height_cons (hdepth : 0 < depth) (c : CodePoint) (t : Text) :
    height pair mode depth (c :: t) = height pair (mode.next c) (depthAfter pair mode depth c) t := by
  rw [height, height, structural_cons, depthAfter]
  by_cases hmode : mode = .plain
  · rw [if_pos hmode, if_pos hmode, List.count_cons, List.count_cons]
    by_cases hopen : c = pair.opening
    · have hclose : pair.opening ≠ pair.closing := pair.opening_ne_closing pair
      simp only [hopen, hclose, BEq.rfl, beq_iff_eq, if_true, if_false]
      omega
    · by_cases hclose : c = pair.closing
      · simp only [hclose, Ne.symm (pair.opening_ne_closing pair), BEq.rfl, beq_iff_eq, if_true, if_false]
        omega
      · simp [hopen, hclose]
  · rw [if_neg hmode, if_neg hmode]

/-! ### Where the scan stops -/

/-- From that depth on, the last code point of the text is the first that leaves no pair open. -/
structure Closes (pair : Pair) (mode : Mode) (depth : Nat) (t : Text) : Prop where
  stays : ∀ first : Text, first <+: t → first ≠ t → 0 < height pair mode depth first
  closes : height pair mode depth t = 0

theorem Closes.ne_nil {t : Text} (h : Closes pair mode depth t) (hdepth : 0 < depth) : t ≠ [] := by
  rintro rfl
  have := h.closes
  rw [height_nil] at this
  omega

theorem closes_cons_iff (hdepth : 0 < depth) {c : CodePoint} {t : Text} :
    Closes pair mode depth (c :: t) ↔
      depthAfter pair mode depth c = 0 ∧ t = [] ∨
        0 < depthAfter pair mode depth c ∧ Closes pair (mode.next c) (depthAfter pair mode depth c) t := by
  constructor
  · intro h
    have hcloses := h.closes
    rw [height_cons hdepth] at hcloses
    by_cases hnil : t = []
    · subst hnil
      rw [height_nil] at hcloses
      exact .inl ⟨by omega, rfl⟩
    · have hfirst := h.stays [c] (by simp) (by simpa [eq_comm] using hnil)
      rw [height_cons hdepth, height_nil] at hfirst
      refine .inr ⟨by omega, fun first hprefix hne => ?_, hcloses⟩
      rw [← height_cons hdepth]
      exact h.stays (c :: first) (List.cons_prefix_cons.mpr ⟨rfl, hprefix⟩) (by simpa using hne)
  · rintro (⟨hzero, rfl⟩ | ⟨hdeep, h⟩)
    · refine ⟨fun first hprefix hne => ?_, ?_⟩
      · obtain rfl : first = [] := by
          cases first with
          | nil => rfl
          | cons d first =>
            obtain ⟨rfl, hnil⟩ := List.cons_prefix_cons.mp hprefix
            exact absurd (by rw [List.prefix_nil.mp hnil]) hne
        rw [height_nil]
        omega
      · rw [height_cons hdepth, height_nil, hzero]
        rfl
    · refine ⟨fun first hprefix hne => ?_, ?_⟩
      · cases first with
        | nil =>
          rw [height_nil]
          omega
        | cons d first =>
          obtain ⟨rfl, hrest⟩ := List.cons_prefix_cons.mp hprefix
          rw [height_cons hdepth]
          exact h.stays first hrest (by simpa using hne)
      · rw [height_cons hdepth]
        exact h.closes

/-- The scan takes just the beginning that closes all pairs. -/
theorem closeFrom_eq_some (hdepth : 0 < depth) {taken t span : Text} :
    closeFrom pair mode depth taken t = some span ↔
      ∃ passed rest, t = passed ++ rest ∧ span = taken.reverse ++ passed ∧
        Closes pair mode depth passed := by
  induction t generalizing mode depth taken with
  | nil =>
    simp only [closeFrom, reduceCtorEq, List.nil_eq_append_iff, false_iff]
    rintro ⟨passed, rest, ⟨rfl, -⟩, -, h⟩
    exact h.ne_nil hdepth rfl
  | cons c t ih =>
    rw [closeFrom]
    constructor
    · intro h
      split at h
      · rename_i hzero
        cases h
        exact ⟨[c], t, rfl, by simp, (closes_cons_iff hdepth).mpr (.inl ⟨hzero, rfl⟩)⟩
      · rename_i deep hdeep
        obtain ⟨passed, rest, rfl, rfl, hpassed⟩ := (ih (Nat.succ_pos deep)).mp h
        refine ⟨c :: passed, rest, rfl, by simp, (closes_cons_iff hdepth).mpr (.inr ⟨by omega, ?_⟩)⟩
        rwa [hdeep]
    · rintro ⟨passed, rest, happend, rfl, h⟩
      cases passed with
      | nil => exact absurd rfl (h.ne_nil hdepth)
      | cons d passed =>
        obtain ⟨rfl, rfl⟩ := List.cons.inj happend
        obtain ⟨hzero, rfl⟩ | ⟨hdeep, h⟩ := (closes_cons_iff hdepth).mp h
        · rw [hzero]
          simp
        · obtain ⟨deep, hdeep⟩ := Nat.exists_eq_add_of_lt hdeep
          rw [Nat.zero_add] at hdeep
          rw [hdeep] at h ⊢
          exact (ih (Nat.succ_pos deep)).mpr ⟨passed, rest, rfl, by simp, h⟩

end

/-! ### Spans -/

variable {pair : Pair}

theorem height_one (first : Text) : height pair .plain 1 first =
    ((outside (pair.opening :: first)).count pair.opening : Int) -
      (outside (pair.opening :: first)).count pair.closing := by
  rw [outside, if_neg (Ne.symm pair.quote_ne.1), List.count_cons_self,
    List.count_cons_of_ne (pair.opening_ne_closing pair), count_outside (Ne.symm pair.quote_ne.1),
    count_outside (Ne.symm pair.quote_ne.2), height]
  omega

/-- What is balanced is what the scan, once it has started, takes. -/
theorem balanced_cons_iff {c : CodePoint} {t : Text} :
    Balanced pair (c :: t) ↔ c = pair.opening ∧ Closes pair .plain 1 t := by
  constructor
  · intro h
    obtain rfl : c = pair.opening := by simpa using h.opens
    refine ⟨rfl, fun first hprefix hne => ?_, ?_⟩
    · have := h.stays (pair.opening :: first) (List.cons_prefix_cons.mpr ⟨rfl, hprefix⟩) (by simp)
        (by simpa using hne)
      rw [height_one]
      omega
    · rw [height_one, h.closes]
      omega
  · rintro ⟨rfl, h⟩
    refine ⟨rfl, fun first hprefix hnil hne => ?_, ?_⟩
    · obtain ⟨d, first, rfl⟩ := List.exists_cons_of_ne_nil hnil
      obtain ⟨rfl, hrest⟩ := List.cons_prefix_cons.mp hprefix
      have := h.stays first hrest (by simpa using hne)
      rw [height_one] at this
      omega
    · have := h.closes
      rw [height_one] at this
      omega

theorem Pair.opened?_eq_some {c : CodePoint} : opened? c = some pair ↔ c = pair.opening := by
  constructor
  · intro h
    by_contra hne
    by_cases hother : ∃ other : Pair, c = other.opening
    · obtain ⟨other, rfl⟩ := hother
      rw [other.opened?_opening] at h
      cases h
      exact hne rfl
    · rw [opened?_eq_none fun other heq => hother ⟨other, heq⟩] at h
      cases h
  · rintro rfl
    exact pair.opened?_opening

theorem balanced?_eq_some {t span : Text} :
    balanced? t = some span ↔ ∃ pair after, t = span ++ after ∧ Balanced pair span := by
  constructor
  · intro h
    unfold balanced? at h
    split at h
    · cases h
    · split at h
      · cases h
      · rename_i c rest _ pair hpair
        obtain ⟨passed, after, rfl, rfl, hpassed⟩ := (closeFrom_eq_some Nat.one_pos).mp h
        exact ⟨pair, after, rfl, balanced_cons_iff.mpr ⟨Pair.opened?_eq_some.mp hpair, hpassed⟩⟩
  · rintro ⟨pair, after, rfl, h⟩
    cases span with
    | nil => cases h.opens
    | cons c passed =>
      obtain ⟨rfl, hpassed⟩ := balanced_cons_iff.mp h
      rw [List.cons_append, balanced?, pair.opened?_opening]
      exact (closeFrom_eq_some Nat.one_pos).mpr ⟨passed, after, rfl, rfl, hpassed⟩

namespace Split
variable {t : Text}

theorem isNone_opened? (split : Split t) : ∀ c ∈ split.before, (Pair.opened? c).isNone = true :=
  isNone_opened?_of_mem split.closed

theorem exists_span_eq (split : Split t) :
    ∃ c rest, split.span = c :: rest ∧ (Pair.opened? c).isNone = false := by
  obtain ⟨pair, h⟩ := split.balanced
  obtain ⟨rest, hspan⟩ := List.head?_eq_some_iff.mp h.opens
  exact ⟨pair.opening, rest, hspan, by rw [pair.opened?_opening]; rfl⟩

/-- The search for an opening delimiter stops in front of the span. -/
theorem dropWhile_eq (split : Split t) :
    t.dropWhile (fun c => (Pair.opened? c).isNone) = split.span ++ split.after := by
  obtain ⟨c, rest, hspan, hc⟩ := split.exists_span_eq
  calc t.dropWhile (fun c => (Pair.opened? c).isNone)
    _ = (split.before ++ (split.span ++ split.after)).dropWhile fun c => (Pair.opened? c).isNone := by
      rw [← List.append_assoc, ← split.whole]
    _ = (split.span ++ split.after).dropWhile fun c => (Pair.opened? c).isNone :=
      List.dropWhile_append_of_pos split.isNone_opened?
    _ = split.span ++ split.after := by
      rw [hspan, List.cons_append, List.dropWhile_cons_of_neg (by simp [hc])]

theorem balanced?_dropWhile (split : Split t) :
    balanced? (t.dropWhile fun c => (Pair.opened? c).isNone) = some split.span := by
  rw [split.dropWhile_eq, balanced?_eq_some]
  obtain ⟨pair, h⟩ := split.balanced
  exact ⟨pair, split.after, rfl, h⟩

instance : Subsingleton (Split t) where
  allEq := by
    intro split other
    have hspan : split.span = other.span :=
      Option.some.inj (split.balanced?_dropWhile.symm.trans other.balanced?_dropWhile)
    have hafter : split.after = other.after := by
      have h := split.dropWhile_eq.symm.trans other.dropWhile_eq
      rw [hspan] at h
      exact List.append_cancel_left h
    have hbefore : split.before = other.before := by
      have h := split.whole.symm.trans other.whole
      rw [hspan, hafter] at h
      exact List.append_cancel_right (List.append_cancel_right h)
    cases split
    cases other
    congr

theorem exists_of_balanced? {span : Text}
    (h : balanced? (t.dropWhile fun c => (Pair.opened? c).isNone) = some span) :
    ∃ split : Split t, split.span = span := by
  obtain ⟨pair, after, hdrop, hbalanced⟩ := balanced?_eq_some.mp h
  refine ⟨⟨t.takeWhile fun c => (Pair.opened? c).isNone, span, after, ?_, fun other hmem => ?_,
    pair, hbalanced⟩, rfl⟩
  · rw [List.append_assoc, ← hdrop, List.takeWhile_append_dropWhile]
  · have hnone := List.all_eq_true.mp List.all_takeWhile _ hmem
    rw [other.opened?_opening] at hnone
    cases hnone

end Split

/-- A span is found exactly if the trimmed text can be split at one, and it is the span of that split; there
    is never more than one way to split a text. -/
theorem find?_exact (reply : Text) :
    (∀ span, find? reply = some span ↔ ∃ split : Split reply.trim, split.span = span) ∧
      (find? reply = none ↔ IsEmpty (Split reply.trim)) ∧ Subsingleton (Split reply.trim) := by
  have hsome : ∀ span, find? reply = some span ↔ ∃ split : Split reply.trim, split.span = span := by
    intro span
    constructor
    · exact Split.exists_of_balanced?
    · rintro ⟨split, rfl⟩
      exact split.balanced?_dropWhile
  refine ⟨hsome, ?_, inferInstance⟩
  rw [Option.eq_none_iff_forall_ne_some]
  constructor
  · intro h
    exact ⟨fun split => h split.span ((hsome _).mpr ⟨split, rfl⟩)⟩
  · intro h span hspan
    obtain ⟨split, -⟩ := (hsome span).mp hspan
    exact h.elim split

end Span
end DeckEdit
