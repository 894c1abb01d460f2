import DeckEdit.Json.Reader
import DeckEdit.Proofs.Span.Walk
import Mathlib.Data.List.TakeDrop
import Mathlib.Data.Nat.Init

/-! The text of a JSON value is level. The reader is followed token by token; inside a text literal the
    scan is at the same depth until the quotation mark at which the reader stops too, since both let a
    backslash take along the code point after it. -/

namespace DeckEdit
namespace Span

/-! ### Parts of a text -/

/-- What stands in front of the rest is level. -/
def Passes (t rest : Text) : Prop := ∃ passed, t = passed ++ rest ∧ Level passed

namespace Passes

theorem refl (t : Text) : Passes t t := ⟨[], rfl, Level.nil⟩

theorem trans {t rest last : Text} (h : Passes t rest) (h' : Passes rest last) : Passes t last := by
  obtain ⟨passed, rfl, hpassed⟩ := h
  obtain ⟨passed', rfl, hpassed'⟩ := h'
  exact ⟨passed ++ passed', by rw [List.append_assoc], hpassed.append hpassed'⟩

theorem cons {c : CodePoint} {t rest : Text} (hc : Inert c) (h : Passes t rest) : Passes (c :: t) rest := by
  obtain ⟨passed, rfl, hpassed⟩ := h
  exact ⟨c :: passed, rfl, hc.level.append hpassed⟩

theorem append {first rest : Text} (h : ∀ c ∈ first, Inert c) : Passes (first ++ rest) rest := by
  induction first with
  | nil => exact refl rest
  | cons c first ih =>
    exact cons (h c List.mem_cons_self) (ih fun d hd => h d (List.mem_cons_of_mem c hd))

theorem dropWhile {p : CodePoint → Bool} (hp : ∀ c, p c = true → Inert c) (t : Text) :
    Passes t (t.dropWhile p) := by
  have hsplit : Passes (t.takeWhile p ++ t.dropWhile p) (t.dropWhile p) :=
    append fun c hc => hp c (List.all_eq_true.mp List.all_takeWhile c hc)
  rwa [List.takeWhile_append_dropWhile] at hsplit

theorem enclose {t rest : Text} (inner : Pair) (h : Passes t (inner.closing :: rest)) :
    Passes (inner.opening :: t) rest := by
  obtain ⟨passed, rfl, hpassed⟩ := h
  exact ⟨inner.opening :: (passed ++ [inner.closing]), by simp, hpassed.enclose inner⟩

end Passes

/-- The rest is what follows the quotation mark that closes a literal. -/
def ClosesLiteral (t rest : Text) : Prop :=
  ∃ passed, t = passed ++ rest ∧
    ∀ pair depth, 0 < depth → walk? pair .quoted depth passed = some (.plain, depth)

namespace ClosesLiteral

theorem walk?_cons_of_ne_plain {pair : Pair} {mode : Mode} (hmode : mode ≠ .plain) {depth : Nat}
    (hdepth : 0 < depth) (c : CodePoint) (rest : Text) :
    walk? pair mode depth (c :: rest) = walk? pair (mode.next c) depth rest := by
  obtain ⟨deep, rfl⟩ := Nat.exists_eq_add_of_lt hdepth
  exact walk?_cons rest (by simp [depthAfter, hmode])

theorem quote (rest : Text) : ClosesLiteral ('"' :: rest) rest := by
  refine ⟨['"'], rfl, fun pair depth hdepth => ?_⟩
  rw [walk?_cons_of_ne_plain (by decide) hdepth]
  rfl

theorem cons {c : CodePoint} {t rest : Text} (hquote : c ≠ '"') (hescape : c ≠ '\\')
    (h : ClosesLiteral t rest) : ClosesLiteral (c :: t) rest := by
  obtain ⟨passed, rfl, hpassed⟩ := h
  refine ⟨c :: passed, rfl, fun pair depth hdepth => ?_⟩
  rw [walk?_cons_of_ne_plain (by decide) hdepth]
  simpa [Mode.next, hquote, hescape] using hpassed pair depth hdepth

theorem escape {c : CodePoint} {t rest : Text} (h : ClosesLiteral t rest) :
    ClosesLiteral ('\\' :: c :: t) rest := by
  obtain ⟨passed, rfl, hpassed⟩ := h
  refine ⟨'\\' :: c :: passed, rfl, fun pair depth hdepth => ?_⟩
  rw [walk?_cons_of_ne_plain (by decide) hdepth, show Mode.quoted.next '\\' = .escaped from rfl,
    walk?_cons_of_ne_plain (by decide) hdepth]
  exact hpassed pair depth hdepth

theorem passes {t rest : Text} (h : ClosesLiteral t rest) : Passes ('"' :: t) rest := by
  obtain ⟨passed, rfl, hpassed⟩ := h
  refine ⟨'"' :: passed, rfl, fun pair depth hdepth => ?_⟩
  obtain ⟨deep, rfl⟩ := Nat.exists_eq_add_of_lt hdepth
  have hquote : depthAfter pair .plain (0 + deep + 1) '"' = 0 + deep + 1 := by
    simp [depthAfter, pair.quote_ne.1, pair.quote_ne.2]
  rw [walk?_cons _ hquote]
  exact hpassed pair _ hdepth

end ClosesLiteral

/-! ### Tokens -/

open Json

theorem inert_iff {c : CodePoint} :
    Inert c ↔ c.val ≠ 34 ∧ c.val ≠ 91 ∧ c.val ≠ 93 ∧ c.val ≠ 123 ∧ c.val ≠ 125 := by
  have hval (d : CodePoint) : c ≠ d ↔ c.val ≠ d.val := by rw [ne_eq, Fin.ext_iff]
  constructor
  · rintro ⟨hquote, hpair⟩
    obtain ⟨hopen, hclose⟩ := hpair .braces
    obtain ⟨hopen', hclose'⟩ := hpair .brackets
    rw [hval] at hquote hopen hclose hopen' hclose'
    exact ⟨hquote, hopen', hclose', hopen, hclose⟩
  · rintro ⟨hquote, hopen', hclose', hopen, hclose⟩
    refine ⟨(hval _).mpr hquote, fun pair => ?_⟩
    cases pair with
    | braces => exact ⟨(hval _).mpr hopen, (hval _).mpr hclose⟩
    | brackets => exact ⟨(hval _).mpr hopen', (hval _).mpr hclose'⟩

instance (c : CodePoint) : Decidable (Inert c) := decidable_of_iff _ inert_iff.symm

theorem inert_of_isBlank {c : CodePoint} (h : isBlank c = true) : Inert c := by
  simp only [isBlank, Bool.or_eq_true, beq_iff_eq] at h
  rcases h with ((rfl | rfl) | rfl) | rfl <;> decide

theorem inert_of_isDigit {c : CodePoint} (h : isDigit c = true) : Inert c := by
  obtain ⟨hle, hge⟩ := Bool.and_eq_true_iff.mp h
  have hlow : 48 ≤ c.val := of_decide_eq_true hle
  have hhigh : c.val ≤ 57 := of_decide_eq_true hge
  rw [inert_iff]
  omega

theorem passes_skipBlanks (t : Text) : Passes t (skipBlanks t) :=
  Passes.dropWhile (fun _ => inert_of_isBlank) t

theorem passes_digitRun (t : Text) : Passes t (digitRun t).2 := by
  rw [digitRun, List.span_eq_takeWhile_dropWhile]
  exact Passes.dropWhile (fun _ => inert_of_isDigit) t

theorem passes_fraction (t : Text) : Passes t (fraction t).2 := by
  unfold fraction
  split
  · rename_i rest
    split
    · exact Passes.refl _
    · exact Passes.cons (by decide) (passes_digitRun rest)
  · exact Passes.refl _

theorem passes_exponent? (t : Text) : Passes t (exponent? t).2 := by
  unfold exponent?
  extract_lets read signed
  have hread (negative : Bool) {after : Text} (h : Passes t after) : Passes t (read negative after).2 := by
    have hrun := passes_digitRun after
    dsimp only [read]
    split
    · exact Passes.refl t
    · rename_i heq
      rw [heq] at hrun
      exact h.trans hrun
  have hsigned {after : Text} (h : Passes t after) : Passes t (signed after).2 := by
    dsimp only [signed]
    split
    · exact hread true (h.trans (Passes.cons (by decide) (Passes.refl _)))
    · exact hread false (h.trans (Passes.cons (by decide) (Passes.refl _)))
    · exact hread false h
  clear_value read signed
  split
  · exact hsigned (Passes.cons (by decide) (Passes.refl _))
  · exact hsigned (Passes.cons (by decide) (Passes.refl _))
  · exact Passes.refl _

theorem passes_wholePart? {t whole rest : Text} (h : wholePart? t = some (whole, rest)) :
    Passes t rest := by
  unfold wholePart? at h
  split at h
  · cases h
    exact Passes.cons (by decide) (Passes.refl _)
  · split at h
    · cases h
    · have hrun : digitRun t = (whole, rest) := Option.some.inj h
      have := passes_digitRun t
      rwa [hrun] at this

theorem passes_unsigned {start t rest : Text} {negative : Bool} {v : Json}
    (h : unsigned start negative t = .ok (v, rest)) : Passes t rest := by
  unfold unsigned at h
  split at h
  · cases h
  · rename_i whole after hwhole
    have hrest : rest = (exponent? (fraction after).2).2 := by
      dsimp only at h
      split at h
      · split at h
        · cases h
        · cases h
          rfl
      · cases h
        rfl
    rw [hrest]
    exact ((passes_wholePart? hwhole).trans (passes_fraction after)).trans (passes_exponent? _)

theorem passes_number {t rest : Text} {v : Json} (h : number t = .ok (v, rest)) : Passes t rest := by
  unfold number at h
  split at h
  · exact Passes.cons (by decide) (passes_unsigned h)
  · exact passes_unsigned h

theorem inert_of_mem_words {entry : Text × Json} (h : entry ∈ words) : ∀ c ∈ entry.1, Inert c := by
  -- Decided as a test over the words, since all code points are too many to try.
  have hall : (words.all fun entry => entry.1.all fun c => decide (Inert c)) = true := by decide
  intro c hc
  exact of_decide_eq_true (List.all_eq_true.mp (List.all_eq_true.mp hall entry h) c hc)

theorem passes_atom {t rest : Text} {v : Json} (h : atom t = .ok (v, rest)) : Passes t rest := by
  unfold atom at h
  split at h
  · rename_i found hfound
    cases h
    obtain ⟨⟨word, w⟩, hword, hafter⟩ := List.exists_of_findSome?_eq_some hfound
    simp only [afterWord?, Option.map_eq_some_iff, Option.ite_none_right_eq_some] at hafter
    obtain ⟨after, ⟨hstart, hdrop⟩, heq⟩ := hafter
    cases heq
    obtain ⟨after, rfl⟩ := List.isPrefixOf_iff_prefix.mp hstart
    obtain rfl : after = rest := by simpa using hdrop
    exact Passes.append (inert_of_mem_words hword)
  · exact passes_number h

theorem hexDigit?_ne {c : CodePoint} {n : Nat} (h : hexDigit? c = some n) : c ≠ '"' ∧ c ≠ '\\' := by
  have hquote : hexDigit? (CodePoint.ofChar '"') = none := by decide
  have hescape : hexDigit? (CodePoint.ofChar '\\') = none := by decide
  constructor
  · rintro rfl
    rw [hquote] at h
    cases h
  · rintro rfl
    rw [hescape] at h
    cases h

theorem hexValue?_ne {a b c d : CodePoint} {n : Nat} (h : hexValue? a b c d = some n) :
    (a ≠ '"' ∧ a ≠ '\\') ∧ (b ≠ '"' ∧ b ≠ '\\') ∧ (c ≠ '"' ∧ c ≠ '\\') ∧ (d ≠ '"' ∧ d ≠ '\\') := by
  unfold hexValue? at h
  obtain ⟨_, ha, h⟩ := Option.bind_eq_some_iff.mp h
  obtain ⟨_, hb, h⟩ := Option.bind_eq_some_iff.mp h
  obtain ⟨_, hc, h⟩ := Option.bind_eq_some_iff.mp h
  obtain ⟨_, hd, -⟩ := Option.bind_eq_some_iff.mp h
  exact ⟨hexDigit?_ne ha, hexDigit?_ne hb, hexDigit?_ne hc, hexDigit?_ne hd⟩

theorem closesLiteral_of_quoted {start t rest s : Text} {paired : Bool} {taken : Text}
    (h : quoted start paired taken t = .ok (s, rest)) : ClosesLiteral t rest := by
  fun_induction quoted start paired taken t with
  | case1 => cases h
  | case2 =>
    cases h
    exact ClosesLiteral.quote rest
  | case3 => cases h
  | case4 => cases h
  | case5 paired taken a b c d after rest' n hn ih =>
    obtain ⟨ha, hb, hc, hd⟩ := hexValue?_ne hn
    exact ((((ih h).cons hd.1 hd.2).cons hc.1 hc.2).cons hb.1 hb.2).cons ha.1 ha.2 |>.escape
  | case6 => cases h
  | case7 => cases h
  | case8 paired taken e rest' hu c hc ih => exact (ih h).escape
  | case9 => cases h
  | case10 paired taken c rest' hquote hescape hcontrol ih => exact (ih h).cons hquote hescape

/-! ### Values

The three readers call each other with one step less, so one induction on the steps carries all of
them. -/

def ValuePasses (fuel : Nat) : Prop := ∀ {depth : Nat} {t rest : Text} {v : Json},
  value depth fuel t = .ok (v, rest) → Passes t rest

def ItemsPass (fuel : Nat) : Prop := ∀ {depth : Nat} {taken : List Json} {t rest : Text} {v : Json},
  items depth taken fuel t = .ok (v, rest) → Passes t (Pair.brackets.closing :: rest)

def MembersPass (fuel : Nat) : Prop :=
  ∀ {depth : Nat} {taken : List (Text × Json)} {t rest : Text} {v : Json},
    members depth taken fuel t = .ok (v, rest) → Passes t (Pair.braces.closing :: rest)

theorem inert_comma : Inert ',' := by decide

theorem inert_colon : Inert ':' := by decide

theorem value_array (depth fuel : Nat) (t : Text) : value (depth + 1) (fuel + 1) ('[' :: t) =
    match skipBlanks t with
    | ']' :: rest => .ok (.array [], rest)
    | rest => items depth [] fuel rest := rfl

theorem value_object (depth fuel : Nat) (t : Text) : value (depth + 1) (fuel + 1) ('{' :: t) =
    match skipBlanks t with
    | '}' :: rest => .ok (.object [], rest)
    | rest => members depth [] fuel rest := rfl

theorem passes_array {fuel : Nat} (hitems : ItemsPass fuel) {depth : Nat} {t rest : Text} {v : Json}
    (h : value depth (fuel + 1) (Pair.brackets.opening :: t) = .ok (v, rest)) :
    Passes t (Pair.brackets.closing :: rest) := by
  have hblanks := passes_skipBlanks t
  cases depth with
  | zero => cases h
  | succ depth =>
    rw [Pair.opening, value_array] at h
    split at h
    · rename_i after hafter
      cases h
      rwa [hafter] at hblanks
    · exact hblanks.trans (hitems h)

theorem passes_object {fuel : Nat} (hmembers : MembersPass fuel) {depth : Nat} {t rest : Text} {v : Json}
    (h : value depth (fuel + 1) (Pair.braces.opening :: t) = .ok (v, rest)) :
    Passes t (Pair.braces.closing :: rest) := by
  have hblanks := passes_skipBlanks t
  cases depth with
  | zero => cases h
  | succ depth =>
    rw [Pair.opening, value_object] at h
    split at h
    · rename_i after hafter
      cases h
      rwa [hafter] at hblanks
    · exact hblanks.trans (hmembers h)

theorem valuePasses_succ {fuel : Nat} (hitems : ItemsPass fuel) (hmembers : MembersPass fuel) :
    ValuePasses (fuel + 1) := by
  intro depth t rest v h
  have h' := h
  unfold value at h
  split at h
  · split at h
    · cases h
    · rename_i hquoted
      cases h
      exact (closesLiteral_of_quoted hquoted).passes
  · exact (passes_array hitems h').enclose .brackets
  · exact (passes_object hmembers h').enclose .braces
  · exact passes_atom h

theorem itemsPass_succ {fuel : Nat} (hvalue : ValuePasses fuel) (hitems : ItemsPass fuel) :
    ItemsPass (fuel + 1) := by
  intro depth taken t rest v h
  unfold items at h
  split at h
  · cases h
  · rename_i item after hitem
    have hpassed := (hvalue hitem).trans (passes_skipBlanks after)
    split at h
    · rename_i hclose
      cases h
      rwa [hclose] at hpassed
    · rename_i next hcomma
      rw [hcomma] at hpassed
      exact (hpassed.trans (Passes.cons inert_comma (passes_skipBlanks next))).trans (hitems h)
    · cases h

theorem membersPass_succ {fuel : Nat} (hvalue : ValuePasses fuel) (hmembers : MembersPass fuel) :
    MembersPass (fuel + 1) := by
  intro depth taken t rest v h
  unfold members at h
  split at h
  · split at h
    · cases h
    · rename_i name afterName hname
      have hpassed := (closesLiteral_of_quoted hname).passes.trans (passes_skipBlanks afterName)
      split at h
      · rename_i beforeValue hcolon
        rw [hcolon] at hpassed
        have hpassed := hpassed.trans (Passes.cons inert_colon (passes_skipBlanks beforeValue))
        split at h
        · cases h
        · rename_i member after hmember
          have hpassed := (hpassed.trans (hvalue hmember)).trans (passes_skipBlanks after)
          dsimp only at h
          split at h
          · rename_i hclose
            cases h
            rwa [hclose] at hpassed
          · rename_i next hcomma
            rw [hcomma] at hpassed
            exact (hpassed.trans (Passes.cons inert_comma (passes_skipBlanks next))).trans (hmembers h)
          · cases h
      · cases h
  · cases h

theorem passes_readers (fuel : Nat) : ValuePasses fuel ∧ ItemsPass fuel ∧ MembersPass fuel := by
  induction fuel with
  | zero =>
    refine ⟨fun h => ?_, fun h => ?_, fun h => ?_⟩
    · cases h
    · cases h
    · cases h
  | succ fuel ih =>
    obtain ⟨hvalue, hitems, hmembers⟩ := ih
    exact ⟨valuePasses_succ hitems hmembers, itemsPass_succ hvalue hitems,
      membersPass_succ hvalue hmembers⟩

/-- The reader ends an array or an object at the delimiter that matches the one it starts with, and what
    stands between the two is level. -/
theorem passes_value {depth fuel : Nat} {pair : Pair} {t rest : Text} {v : Json}
    (h : value depth fuel (pair.opening :: t) = .ok (v, rest)) : Passes t (pair.closing :: rest) := by
  cases fuel with
  | zero => cases h
  | succ fuel =>
    obtain ⟨-, hitems, hmembers⟩ := passes_readers fuel
    cases pair with
    | braces => exact passes_object hmembers h
    | brackets => exact passes_array hitems h

end Span
end DeckEdit
