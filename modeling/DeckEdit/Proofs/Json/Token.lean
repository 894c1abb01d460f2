import DeckEdit.Json.Printer
import DeckEdit.Json.Token
import DeckEdit.Proofs.Text
import Mathlib.Algebra.Group.Nat.Defs
import Mathlib.Data.List.TakeWhile
import Mathlib.Data.Nat.Init

/-! Tokens are read back as they are printed. A text literal ends at the mark that closes it, whatever
    follows; a number ends where nothing follows that could belong to it. -/

namespace DeckEdit
namespace Json

/-! ### Text literals -/

theorem hexDigit?_digitChar : ∀ n < 16, hexDigit? (CodePoint.ofChar (Nat.digitChar n)) = some n := by
  decide

theorem hexDigits_four (n : Nat) : Text.hexDigits n 4 =
    [CodePoint.ofChar (Nat.digitChar (n / 16 / 16 / 16 % 16)),
      CodePoint.ofChar (Nat.digitChar (n / 16 / 16 % 16)), CodePoint.ofChar (Nat.digitChar (n / 16 % 16)),
      CodePoint.ofChar (Nat.digitChar (n % 16))] := rfl

theorem hexValue?_digitChar {n : Nat} (h : n < 0x10000) :
    hexValue? (CodePoint.ofChar (Nat.digitChar (n / 16 / 16 / 16 % 16)))
      (CodePoint.ofChar (Nat.digitChar (n / 16 / 16 % 16))) (CodePoint.ofChar (Nat.digitChar (n / 16 % 16)))
      (CodePoint.ofChar (Nat.digitChar (n % 16))) = some n := by
  have hmod (m : Nat) : m % 16 < 16 := Nat.mod_lt m (by decide)
  simp only [hexValue?, hexDigit?_digitChar _ (hmod _), Option.bind_eq_bind, Option.bind_some,
    Option.pure_def, Option.some.injEq]
  omega

theorem quoted_unicode (start taken : Text) {a b c d after : CodePoint} {n : Nat}
    (h : hexValue? a b c d = some n) (rest : Text) :
    quoted start false taken ("\\u" ++ [a, b, c, d] ++ after :: rest) =
      quoted start (isHighSurrogate n) (CodePoint.ofNat n :: taken) (after :: rest) := by
  have htaken : takeEscaped false n taken = CodePoint.ofNat n :: taken := by cases taken <;> rfl
  have hmark : Text.ofString "\\u" = [⟨0x5C, by decide⟩, ⟨0x75, by decide⟩] := rfl
  simp only [hmark, List.cons_append, List.nil_append, quoted, h, htaken]

theorem quoted_plain (start taken : Text) {c : CodePoint} (hquote : c ≠ '"') (hescape : c ≠ '\\')
    (hcontrol : ¬ c.val < 0x20) (rest : Text) :
    quoted start false taken (c :: rest) = quoted start false (c :: taken) rest := by
  rw [quoted, if_neg hcontrol]
  · exact hquote
  · exact hescape

/-- What stands for a code point in a literal is read as that code point. -/
theorem quoted_escaped (start taken : Text) (c : CodePoint) {rest : Text} (hrest : rest ≠ []) :
    quoted start false taken (escaped c ++ rest) = quoted start false (c :: taken) rest := by
  unfold escaped
  split_ifs with hquote hescape hfeed hreturn htab hform hback hcontrol
  · subst hquote
    rfl
  · subst hescape
    rfl
  · subst hfeed
    rfl
  · subst hreturn
    rfl
  · subst htab
    rfl
  · obtain rfl : c = CodePoint.ofNat 0x0C := Fin.ext hform
    rfl
  · obtain rfl : c = CodePoint.ofNat 0x08 := Fin.ext hback
    rfl
  · obtain ⟨after, rest, rfl⟩ := List.exists_cons_of_ne_nil hrest
    have hhigh : isHighSurrogate c.val = false := by
      simp only [isHighSurrogate, Bool.and_eq_false_imp, decide_eq_true_eq]
      omega
    rw [hexDigits_four, quoted_unicode start taken (hexValue?_digitChar (n := c.val) (by omega)), hhigh,
      CodePoint.ofNat_val]
  · exact quoted_plain start taken hquote hescape hcontrol rest

theorem quoted_flatMap (start taken t rest : Text) :
    quoted start false taken (t.flatMap escaped ++ CodePoint.ofChar '"' :: rest) =
      .ok (taken.reverse ++ t, rest) := by
  induction t generalizing taken with
  | nil =>
    rw [List.append_nil]
    rfl
  | cons c t ih =>
    rw [List.flatMap_cons, List.append_assoc, quoted_escaped start taken c (by simp), ih]
    simp

theorem quote_append (t rest : Text) :
    quote t ++ rest = CodePoint.ofChar '"' :: (t.flatMap escaped ++ CodePoint.ofChar '"' :: rest) := by
  have hmark : Text.ofString "\"" = [CodePoint.ofChar '"'] := rfl
  simp [quote, hmark]

/-! ### Numbers -/

/-- No number goes on with the text. -/
def EndsNumber (rest : Text) : Prop :=
  ∀ c ∈ rest.head?, isDigit c = false ∧ c ≠ '.' ∧ c ≠ 'e' ∧ c ≠ 'E' ∧ c ≠ '+' ∧ c ≠ '-'

section
variable {rest : Text}

theorem digitRun_cons_of_pos {c : CodePoint} (h : isDigit c = true) (t : Text) :
    digitRun (c :: t) = (c :: (digitRun t).1, (digitRun t).2) := by
  simp [digitRun, List.span_eq_takeWhile_dropWhile, h]

theorem digitRun_cons_of_neg {c : CodePoint} (h : isDigit c = false) (t : Text) :
    digitRun (c :: t) = ([], c :: t) := by
  simp [digitRun, List.span_eq_takeWhile_dropWhile, h]

theorem EndsNumber.digitRun (h : EndsNumber rest) : digitRun rest = ([], rest) := by
  cases rest with
  | nil => rfl
  | cons c rest => exact digitRun_cons_of_neg (h c rfl).1 rest

theorem digitRun_append (h : EndsNumber rest) (t : Text) :
    digitRun (t ++ rest) = ((digitRun t).1, (digitRun t).2 ++ rest) := by
  induction t with
  | nil => exact h.digitRun
  | cons c t ih =>
    cases hc : isDigit c with
    | true => rw [List.cons_append, digitRun_cons_of_pos hc, digitRun_cons_of_pos hc, ih]
    | false =>
      rw [List.cons_append, digitRun_cons_of_neg hc, digitRun_cons_of_neg hc]
      rfl

theorem fraction_point (t : Text) : fraction (CodePoint.ofChar '.' :: t) =
    match digitRun t with
    | ([], _) => ([], CodePoint.ofChar '.' :: t)
    | found => found := rfl

theorem fraction_of_ne {t : Text} (h : ∀ c ∈ t.head?, c ≠ '.') : fraction t = ([], t) := by
  unfold fraction
  split
  · exact absurd rfl (h _ rfl)
  · rfl

theorem fraction_append (h : EndsNumber rest) (t : Text) :
    fraction (t ++ rest) = ((fraction t).1, (fraction t).2 ++ rest) := by
  cases t with
  | nil => exact fraction_of_ne fun c hc => (h c hc).2.1
  | cons c t =>
    by_cases hc : c = '.'
    · subst hc
      rw [List.cons_append, fraction_point, fraction_point, digitRun_append h]
      cases hrun : digitRun t with
      | mk digits after => cases digits <;> rfl
    · rw [List.cons_append, fraction_of_ne (by simpa using hc), fraction_of_ne (by simpa using hc)]
      rfl

/-- The exponent that some digits give; without any, all of the text from the mark on is left. -/
def power (marked : Text) (negative : Bool) (t : Text) : Option Int × Text :=
  match digitRun t with
  | ([], _) => (none, marked)
  | (digits, after) => (some (if negative then -(digitsValue digits : Int) else digitsValue digits), after)

theorem power_append (h : EndsNumber rest) (marked : Text) (negative : Bool) (t : Text) :
    power (marked ++ rest) negative (t ++ rest) =
      ((power marked negative t).1, (power marked negative t).2 ++ rest) := by
  unfold power
  rw [digitRun_append h]
  cases hrun : digitRun t with
  | mk digits after => cases digits <;> rfl

theorem exponent?_minus {mark : CodePoint} (hmark : mark = 'e' ∨ mark = 'E') (t : Text) :
    exponent? (mark :: '-' :: t) = power (mark :: '-' :: t) true t := by
  rcases hmark with rfl | rfl <;> rfl

theorem exponent?_plus {mark : CodePoint} (hmark : mark = 'e' ∨ mark = 'E') (t : Text) :
    exponent? (mark :: '+' :: t) = power (mark :: '+' :: t) false t := by
  rcases hmark with rfl | rfl <;> rfl

theorem exponent?_unsigned {mark : CodePoint} (hmark : mark = 'e' ∨ mark = 'E') {t : Text}
    (h : ∀ c ∈ t.head?, c ≠ '-' ∧ c ≠ '+') : exponent? (mark :: t) = power (mark :: t) false t := by
  rcases hmark with rfl | rfl
  all_goals
    unfold exponent?
    extract_lets read signed
    change signed t = _
    dsimp only [signed]
    split
    · exact absurd rfl (h _ rfl).1
    · exact absurd rfl (h _ rfl).2
    · rfl

theorem exponent?_of_ne {t : Text} (h : ∀ c ∈ t.head?, c ≠ 'e' ∧ c ≠ 'E') : exponent? t = (none, t) := by
  unfold exponent?
  extract_lets read signed
  split
  · exact absurd rfl (h _ rfl).1
  · exact absurd rfl (h _ rfl).2
  · rfl

theorem exponent?_append (h : EndsNumber rest) (t : Text) :
    exponent? (t ++ rest) = ((exponent? t).1, (exponent? t).2 ++ rest) := by
  cases t with
  | nil => exact exponent?_of_ne fun c hc => ⟨(h c hc).2.2.1, (h c hc).2.2.2.1⟩
  | cons mark t =>
    by_cases hmark : mark = 'e' ∨ mark = 'E'
    · cases t with
      | nil =>
        have hsign : ∀ c ∈ rest.head?, c ≠ '-' ∧ c ≠ '+' :=
          fun c hc => ⟨(h c hc).2.2.2.2.2, (h c hc).2.2.2.2.1⟩
        have hnone : ∀ c ∈ ([] : Text).head?, c ≠ '-' ∧ c ≠ '+' := by simp
        rw [List.cons_append, List.nil_append, exponent?_unsigned hmark hsign, exponent?_unsigned hmark hnone]
        exact power_append h [mark] false []
      | cons c t =>
        by_cases hminus : c = '-'
        · subst hminus
          rw [List.cons_append, List.cons_append, exponent?_minus hmark, exponent?_minus hmark]
          exact power_append h (mark :: '-' :: t) true t
        · by_cases hplus : c = '+'
          · subst hplus
            rw [List.cons_append, List.cons_append, exponent?_plus hmark, exponent?_plus hmark]
            exact power_append h (mark :: '+' :: t) false t
          · have hsign {s : Text} : ∀ d ∈ (c :: s : Text).head?, d ≠ '-' ∧ d ≠ '+' := by
              simpa using ⟨hminus, hplus⟩
            rw [List.cons_append, List.cons_append, exponent?_unsigned hmark hsign,
              exponent?_unsigned hmark hsign]
            exact power_append h (mark :: c :: t) false (c :: t)
    · have hne {s : Text} : ∀ d ∈ (mark :: s : Text).head?, d ≠ 'e' ∧ d ≠ 'E' := by
        simpa using not_or.mp hmark
      rw [List.cons_append, exponent?_of_ne hne, exponent?_of_ne hne]
      rfl

theorem wholePart?_of_ne {t : Text} (h : ∀ c ∈ t.head?, c ≠ '0') : wholePart? t =
    if (digitRun t).1 = [] then none else some (digitRun t) := by
  unfold wholePart?
  split
  · exact absurd rfl (h _ rfl)
  · cases hrun : digitRun t with
    | mk digits after => cases digits <;> rfl

theorem wholePart?_append (h : EndsNumber rest) {t whole after : Text}
    (hread : wholePart? t = some (whole, after)) : wholePart? (t ++ rest) = some (whole, after ++ rest) := by
  cases t with
  | nil => cases hread
  | cons c t =>
    by_cases hc : c = '0'
    · subst hc
      cases hread
      rfl
    · have hne {s : Text} : ∀ d ∈ (c :: s : Text).head?, d ≠ '0' := by simpa using hc
      rw [wholePart?_of_ne hne] at hread
      rw [List.cons_append, wholePart?_of_ne hne, ← List.cons_append, digitRun_append h]
      split at hread
      · cases hread
      · rename_i hdigits
        rw [if_neg hdigits, Option.some.inj hread]

theorem unsigned_append (h : EndsNumber rest) {start t after : Text} {negative : Bool} {v : Json}
    (hread : unsigned start negative t = .ok (v, after)) (start' : Text) :
    unsigned start' negative (t ++ rest) = .ok (v, after ++ rest) := by
  unfold unsigned at hread ⊢
  split at hread
  · cases hread
  · rename_i whole later hwhole
    rw [wholePart?_append h hwhole]
    simp only [fraction_append h, exponent?_append h]
    dsimp only at hread
    split at hread
    · rename_i hinteger
      rw [if_pos hinteger]
      split at hread
      · cases hread
      · rename_i hlength
        rw [if_neg hlength]
        cases hread
        rfl
    · rename_i hinteger
      rw [if_neg hinteger]
      cases hread
      rfl

theorem number_minus (t : Text) :
    number (CodePoint.ofChar '-' :: t) = unsigned (CodePoint.ofChar '-' :: t) true t := rfl

theorem number_of_ne {t : Text} (h : ∀ c ∈ t.head?, c ≠ '-') : number t = unsigned t false t := by
  unfold number
  split
  · exact absurd rfl (h _ rfl)
  · rfl

/-- A number is read as it is read alone. -/
theorem number_append (h : EndsNumber rest) {t after : Text} {v : Json}
    (hread : number t = .ok (v, after)) : number (t ++ rest) = .ok (v, after ++ rest) := by
  cases t with
  | nil => cases hread
  | cons c t =>
    by_cases hc : c = '-'
    · subst hc
      exact unsigned_append h hread _
    · have hne {s : Text} : ∀ d ∈ (c :: s : Text).head?, d ≠ '-' := by simpa using hc
      rw [number_of_ne hne] at hread
      rw [List.cons_append, number_of_ne hne]
      exact unsigned_append h hread _

end

/-! ### Integers -/

theorem isDigit_ofChar {d : Char} (h : d.isDigit = true) : isDigit (CodePoint.ofChar d) = true := by
  obtain ⟨hlow, hhigh⟩ := Char.isDigit_iff_toNat.mp h
  rw [isDigit, Bool.and_eq_true]
  exact ⟨decide_eq_true hlow, decide_eq_true hhigh⟩

theorem isDigit_of_mem_ofNat {n : Nat} : ∀ c ∈ Text.ofNat n, isDigit c = true := by
  intro c hc
  obtain ⟨d, hd, rfl⟩ := List.mem_map.mp hc
  exact isDigit_ofChar (Text.isDigit_of_mem_toDigits d hd)

theorem digitRun_of_digits {t : Text} (h : ∀ c ∈ t, isDigit c = true) : digitRun t = (t, []) := by
  induction t with
  | nil => rfl
  | cons c t ih =>
    rw [digitRun_cons_of_pos (h c List.mem_cons_self), ih fun d hd => h d (List.mem_cons_of_mem c hd)]

theorem digitsValue_ofNat (n : Nat) : digitsValue (Text.ofNat n) = n := by
  have hfold (digits : List Char) (start : Nat) :
      (digits.map CodePoint.ofChar).foldl (fun n c => 10 * n + (c.val - '0'.toNat)) start =
        Nat.ofDigitChars 10 digits start := by
    induction digits generalizing start with
    | nil => rfl
    | cons d rest ih =>
      rw [List.map_cons, List.foldl_cons, ih, Nat.ofDigitChars_cons]
      rfl
  rw [digitsValue, Text.ofNat, hfold, Nat.ofDigitChars_ten_toDigits]

theorem wholePart?_ofNat (n : Nat) : wholePart? (Text.ofNat n) = some (Text.ofNat n, []) := by
  by_cases hzero : n = 0
  · subst hzero
    rfl
  · have hne : ∀ c ∈ (Text.ofNat n).head?, c ≠ '0' := by
      rintro c hc rfl
      rw [Text.ofNat, List.head?_map] at hc
      obtain ⟨d, hd, heq⟩ := Option.map_eq_some_iff.mp hc
      rw [CodePoint.ofChar_injective heq] at hd
      exact hzero (Text.eq_zero_of_head?_toDigits hd)
    rw [wholePart?_of_ne hne, digitRun_of_digits isDigit_of_mem_ofNat, if_neg]
    simp [Text.ofNat, Nat.toDigits_ne_nil]

theorem unsigned_ofNat {n : Nat} (h : n < 10 ^ maxIntegerDigits) (start : Text) (negative : Bool) :
    unsigned start negative (Text.ofNat n) = .ok (.int (if negative then -(n : Int) else n), []) := by
  have hlength : ¬ maxIntegerDigits < (Text.ofNat n).length := by
    rw [Text.ofNat, List.length_map, Nat.not_lt]
    exact (Nat.length_toDigits_le_iff (by decide) (by decide)).mpr h
  have hfraction : fraction [] = ([], []) := rfl
  have hexponent : exponent? [] = (none, []) := rfl
  rw [unsigned, wholePart?_ofNat]
  simp only [hfraction, hexponent, hlength, digitsValue_ofNat]
  rfl

theorem number_ofInt {i : Int} (h : i.natAbs < 10 ^ maxIntegerDigits) :
    number (Text.ofInt i) = .ok (.int i, []) := by
  unfold Text.ofInt
  split_ifs with hneg
  · have hvalue : -(i.natAbs : Int) = i := by omega
    rw [number_minus, unsigned_ofNat h, if_pos rfl, hvalue]
  · have hne : ∀ c ∈ (Text.ofNat i.natAbs).head?, c ≠ '-' := by
      rintro c hc rfl
      cases isDigit_of_mem_ofNat _ (List.mem_of_mem_head? hc)
    have hvalue : (i.natAbs : Int) = i := by omega
    rw [number_of_ne hne, unsigned_ofNat h, if_neg Bool.false_ne_true, hvalue]

/-! ### Words and numbers -/

/-- A digit comes first, or a minus sign and a digit. -/
def StartsNumber (t : Text) : Prop :=
  ∃ d u, isDigit d = true ∧ (t = d :: u ∨ t = CodePoint.ofChar '-' :: d :: u)

theorem exists_digit_of_wholePart? {t : Text} {found : Text × Text} (h : wholePart? t = some found) :
    ∃ d u, isDigit d = true ∧ t = d :: u := by
  cases t with
  | nil => cases h
  | cons c t =>
    by_cases hc : c = '0'
    · subst hc
      exact ⟨_, t, rfl, rfl⟩
    · cases hdigit : isDigit c with
      | true => exact ⟨c, t, hdigit, rfl⟩
      | false =>
        rw [wholePart?_of_ne (by simpa using hc), digitRun_cons_of_neg hdigit] at h
        cases h

theorem exists_digit_of_unsigned {start t after : Text} {negative : Bool} {v : Json}
    (h : unsigned start negative t = .ok (v, after)) : ∃ d u, isDigit d = true ∧ t = d :: u := by
  unfold unsigned at h
  split at h
  · cases h
  · rename_i hwhole
    exact exists_digit_of_wholePart? hwhole

theorem startsNumber_of_number {t after : Text} {v : Json} (h : number t = .ok (v, after)) :
    StartsNumber t := by
  unfold number at h
  split at h
  · obtain ⟨d, u, hd, rfl⟩ := exists_digit_of_unsigned h
    exact ⟨d, u, hd, .inr rfl⟩
  · obtain ⟨d, u, hd, rfl⟩ := exists_digit_of_unsigned h
    exact ⟨d, u, hd, .inl rfl⟩

/-- Two code points that are no digits come first in every word. -/
theorem exists_letters_of_mem_words {entry : Text × Json} (h : entry ∈ words) :
    ∃ c d letters, entry.1 = c :: d :: letters ∧ isDigit c = false ∧ isDigit d = false := by
  simp only [words, List.mem_cons, List.not_mem_nil, or_false] at h
  rcases h with rfl | rfl | rfl | rfl | rfl | rfl
  all_goals exact ⟨_, _, _, rfl, rfl, rfl⟩

/-- No word is taken for a number. -/
theorem StartsNumber.atom {t : Text} (h : StartsNumber t) : atom t = number t := by
  unfold Json.atom
  split
  · rename_i found hfound
    obtain ⟨entry, hentry, hafter⟩ := List.exists_of_findSome?_eq_some hfound
    obtain ⟨rest, hrest, -⟩ := Option.map_eq_some_iff.mp hafter
    obtain ⟨c, d, letters, hletters, hc, hd⟩ := exists_letters_of_mem_words hentry
    have hprefix : entry.1 <+: t := by
      by_contra hnot
      rw [afterWord?, if_neg (by simpa using hnot)] at hrest
      cases hrest
    obtain ⟨after, rfl⟩ := hprefix
    obtain ⟨digit, u, hdigit, heq | heq⟩ := h
    · rw [hletters] at heq
      cases heq
      cases hc.symm.trans hdigit
    · rw [hletters] at heq
      cases heq
      cases hd.symm.trans hdigit
  · rfl

theorem atom_append {rest : Text} (h : EndsNumber rest) {t after : Text} {v : Json}
    (hread : number t = .ok (v, after)) : atom (t ++ rest) = .ok (v, after ++ rest) := by
  have hnumber := number_append h hread
  rw [(startsNumber_of_number hnumber).atom, hnumber]

theorem atom_null (rest : Text) : atom ("null" ++ rest) = .ok (.null, rest) := rfl

theorem atom_bool (b : Bool) (rest : Text) :
    atom ((if b then "true" else "false" : Text) ++ rest) = .ok (.bool b, rest) := by
  cases b <;> rfl

end Json
end DeckEdit
