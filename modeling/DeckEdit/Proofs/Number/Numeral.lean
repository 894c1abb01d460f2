import DeckEdit.Number.Numeral
import DeckEdit.Proofs.Text
import Mathlib.Data.Nat.Digits.Defs
import Mathlib.Data.Nat.Init

/-! Integers in decimal are read back as they were written, as long as they have no more digits than a
    numeral may have. Those that have more are neither written nor read. -/

namespace DeckEdit

namespace CodePoint

theorem digitValue?_ofChar {d : Char} (h : d.isDigit = true) :
    digitValue? (ofChar d) = some (d.toNat - '0'.toNat) := by
  obtain ⟨hlow, hhigh⟩ := Char.isDigit_iff_toNat.mp h
  have hfirst : (decide (0x30 ≤ (ofChar d).val) && decide ((ofChar d).val < 0x30 + 10)) = true := by
    rw [Bool.and_eq_true]
    exact ⟨decide_eq_true hlow, decide_eq_true (Nat.lt_succ_of_le hhigh)⟩
  have hfind : (zeros.find? fun first => first ≤ (ofChar d).val && (ofChar d).val < first + 10) = some 0x30 :=
    List.find?_cons_of_pos hfirst
  rw [digitValue?, hfind]
  rfl

theorem lt_of_digitValue? {c : CodePoint} {d : Nat} (h : digitValue? c = some d) : d < 10 := by
  rw [digitValue?] at h
  obtain ⟨first, hfirst, rfl⟩ := Option.map_eq_some_iff.mp h
  have hrange := List.find?_some hfirst
  simp only [Bool.and_eq_true, decide_eq_true_eq] at hrange
  omega

theorem ofChar_ne_underscore {d : Char} (h : d.isDigit = true) : ofChar d ≠ ofChar '_' := by
  intro heq
  obtain rfl := ofChar_injective heq
  cases h

theorem isWhiteSpace_ofChar {d : Char} (h : d.isDigit = true) : isWhiteSpace (ofChar d) = false := by
  obtain ⟨hlow, hhigh⟩ := Char.isDigit_iff_toNat.mp h
  have hlow : 0x30 ≤ (ofChar d).val := hlow
  have hhigh : (ofChar d).val ≤ 0x39 := hhigh
  refine Bool.eq_false_iff.mpr fun hwhite => ?_
  simp only [isWhiteSpace, isBlank, Bool.and_eq_true, Bool.or_eq_true, decide_eq_true_eq,
    beq_iff_eq] at hwhite
  omega

end CodePoint

namespace Text

theorem trimBoth_eq_self {p : CodePoint → Bool} {t : Text} (h : ∀ c ∈ t, p c = false) :
    trimBoth p t = t := by
  have hends {s : Text} (hs : ∀ c ∈ s, p c = false) : s.dropWhile p = s := by
    cases s with
    | nil => rfl
    | cons c rest => exact List.dropWhile_cons_of_neg (by simp [hs c List.mem_cons_self])
  rw [trimBoth, hends h, hends fun c hc => h c (List.mem_reverse.mp hc), List.reverse_reverse]

theorem isWhiteSpace_of_mem_ofInt {i : Int} : ∀ c ∈ ofInt i, c.isWhiteSpace = false := by
  have hdigits : ∀ c ∈ ofNat i.natAbs, c.isWhiteSpace = false := by
    intro c hc
    obtain ⟨d, hd, rfl⟩ := List.mem_map.mp hc
    exact CodePoint.isWhiteSpace_ofChar (isDigit_of_mem_toDigits d hd)
  intro c hc
  rw [ofInt] at hc
  split at hc
  · rcases List.mem_cons.mp hc with rfl | hc
    · decide
    · exact hdigits c hc
  · exact hdigits c hc

theorem length_ofNat_natAbs_le (i : Int) : (ofNat i.natAbs).length ≤ (ofInt i).length := by
  rw [ofInt]
  split
  · exact Nat.le_succ _
  · exact Nat.le_refl _

theorem ofNat_eq_map (n : Nat) : ofNat n = (Nat.toDigits 10 n).map CodePoint.ofChar := rfl

end Text

namespace Numeral

/-- Digits are read one after the other, in front of the value so far. -/
theorem readDigits_digits {digits : List Char} (h : ∀ d ∈ digits, d.isDigit = true) (count value : Nat) :
    readDigits true count value (digits.map CodePoint.ofChar) =
      some (count + digits.length, Nat.ofDigitChars 10 digits value) := by
  induction digits generalizing count value with
  | nil => rfl
  | cons d rest ih =>
    have hd := h d List.mem_cons_self
    rw [List.map_cons, readDigits, if_neg (CodePoint.ofChar_ne_underscore hd),
      CodePoint.digitValue?_ofChar hd]
    dsimp only
    rw [ih (fun e he => h e (List.mem_cons_of_mem d he)), Nat.ofDigitChars_cons, List.length_cons]
    congr 2
    omega

/-- A run of digits is read if there are not too many. -/
theorem natural?_digits {digits : List Char} (h : ∀ d ∈ digits, d.isDigit = true) (hne : digits ≠ []) :
    natural? (digits.map CodePoint.ofChar) =
      if digits.length ≤ maxDigits then some (Nat.ofDigitChars 10 digits 0) else none := by
  have hread : readDigits false 0 0 (digits.map CodePoint.ofChar) =
      some (digits.length, Nat.ofDigitChars 10 digits 0) := by
    cases digits with
    | nil => exact absurd rfl hne
    | cons d rest =>
      -- The first digit is read as one that stands after another.
      have hd := h d List.mem_cons_self
      have hcontinue : readDigits false 0 0 ((d :: rest).map CodePoint.ofChar) =
          readDigits true 0 0 ((d :: rest).map CodePoint.ofChar) := by
        simp only [List.map_cons, readDigits, if_neg (CodePoint.ofChar_ne_underscore hd)]
      rw [hcontinue, readDigits_digits h, Nat.zero_add]
  rw [natural?, hread]

theorem natural?_ofNat {n : Nat} (h : (Text.ofNat n).length ≤ maxDigits) :
    natural? (Text.ofNat n) = some n := by
  rw [Text.ofNat_eq_map, List.length_map] at h
  rw [Text.ofNat_eq_map, natural?_digits Text.isDigit_of_mem_toDigits Nat.toDigits_ne_nil, if_pos h,
    Nat.ofDigitChars_ten_toDigits]

/-- Digits alone are an integer without a sign. -/
theorem integer?_digits {digits : List Char} (h : ∀ d ∈ digits, d.isDigit = true) :
    integer? (digits.map CodePoint.ofChar) =
      (natural? (digits.map CodePoint.ofChar)).map fun n : Nat => (n : Int) := by
  have hwhite : ∀ c ∈ digits.map CodePoint.ofChar, c.isWhiteSpace = false := by
    intro c hc
    obtain ⟨d, hd, rfl⟩ := List.mem_map.mp hc
    exact CodePoint.isWhiteSpace_ofChar (h d hd)
  have hsign (sign : Char) (hno : sign.isDigit = false) (rest : Text) :
      digits.map CodePoint.ofChar ≠ CodePoint.ofChar sign :: rest := by
    intro heq
    obtain ⟨d, hd, hsame⟩ := List.mem_map.mp (heq ▸ List.mem_cons_self)
    exact Bool.eq_false_iff.mp hno (CodePoint.ofChar_injective hsame ▸ h d hd)
  rw [integer?, Text.trimBoth_eq_self hwhite]
  split
  · rename_i heq
    exact absurd heq (hsign '-' rfl _)
  · rename_i heq
    exact absurd heq (hsign '+' rfl _)
  · cases natural? (digits.map CodePoint.ofChar) <;> rfl

theorem integer?_ofInt {i : Int} (h : (Text.ofInt i).length ≤ maxDigits) :
    integer? (Text.ofInt i) = some i := by
  have hread := natural?_ofNat (Nat.le_trans (Text.length_ofNat_natAbs_le i) h)
  by_cases hneg : i < 0
  · have hvalue : -(i.natAbs : Int) = i := by
      rw [Int.ofNat_natAbs_of_nonpos (Int.le_of_lt hneg), Int.neg_neg]
    rw [integer?, Text.trimBoth_eq_self Text.isWhiteSpace_of_mem_ofInt, Text.ofInt, if_pos hneg]
    change ((natural? (Text.ofNat i.natAbs)).map fun n => -(n : Int)) = some i
    rw [hread]
    exact congrArg some hvalue
  · rw [Text.ofInt, if_neg hneg, Text.ofNat_eq_map, integer?_digits Text.isDigit_of_mem_toDigits,
      ← Text.ofNat_eq_map, hread]
    exact congrArg some (Int.natAbs_of_nonneg (Int.not_lt.mp hneg))

/-! ### Too many digits -/

/-- A number that is read is below the power of ten that goes with the digits. -/
theorem lt_of_readDigits {afterDigit : Bool} {count value n v : Nat} {t : Text}
    (h : readDigits afterDigit count value t = some (n, v)) (hvalue : value < 10 ^ count) : v < 10 ^ n := by
  induction t generalizing afterDigit count value with
  | nil =>
    cases afterDigit <;> cases h
    exact hvalue
  | cons c rest ih =>
    rw [readDigits] at h
    split at h
    · split at h
      · exact ih h hvalue
      · cases h
    · split at h
      · rename_i d hd
        have hdigit := CodePoint.lt_of_digitValue? hd
        refine ih h ?_
        rw [Nat.pow_succ]
        omega
      · cases h

theorem lt_of_natural? {t : Text} {n : Nat} (h : natural? t = some n) : n < 10 ^ maxDigits := by
  rw [natural?] at h
  split at h
  · rename_i count value hread
    obtain ⟨hcount, hvalue⟩ := Option.ite_none_right_eq_some.mp h
    cases hvalue
    exact Nat.lt_of_lt_of_le (lt_of_readDigits hread (by decide)) (Nat.pow_le_pow_right (by decide) hcount)
  · cases h

theorem natAbs_lt_of_integer? {t : Text} {i : Int} (h : integer? t = some i) :
    i.natAbs < 10 ^ maxDigits := by
  rw [integer?] at h
  -- The sign, if there is one, leaves the digits as they are.
  split at h <;>
    · simp only [Option.map_eq_some_iff, Option.bind_eq_bind, Option.bind_eq_some_iff, Option.pure_def,
        Option.some.injEq] at h
      obtain ⟨_, ⟨n, hn, rfl⟩, rfl⟩ := h
      simpa using lt_of_natural? hn

/-- A number has at most so many digits exactly if it is below the power of ten. -/
theorem length_ofNat_le_iff {n k : Nat} (hk : 0 < k) : (Text.ofNat n).length ≤ k ↔ n < 10 ^ k := by
  rw [Text.ofNat_eq_map, List.length_map]
  constructor
  · intro hlength
    have hread := readDigits_digits (Text.isDigit_of_mem_toDigits (n := n)) 0 0
    rw [Nat.ofDigitChars_ten_toDigits, Nat.zero_add] at hread
    exact Nat.lt_of_lt_of_le (lt_of_readDigits hread (by decide)) (Nat.pow_le_pow_right (by decide) hlength)
  · exact Nat.toDigits_length 10 n k hk

theorem write_of_lt {i : Int} (h : i.natAbs < 10 ^ maxDigits) : write i = .ok (Text.ofInt i) :=
  if_pos ((length_ofNat_le_iff (by decide)).mpr h)

theorem write_of_le {i : Int} (h : 10 ^ maxDigits ≤ i.natAbs) : write i = .error {} :=
  if_neg fun hlength => Nat.not_lt.mpr h ((length_ofNat_le_iff (by decide)).mp hlength)

/-! ### Plain numerals -/

/-- A number from one on as it is written: ASCII digits, the first of which is not zero. -/
structure IsPlain (t : Text) : Prop where
  nonempty : t ≠ []
  digits : ∀ c ∈ t, isPlainDigit c = true
  lead : t.head? ≠ some (CodePoint.ofChar '0')

theorem isPlainDigit_ofChar {d : Char} (h : d.isDigit = true) : isPlainDigit (CodePoint.ofChar d) = true := by
  obtain ⟨hlow, hhigh⟩ := Char.isDigit_iff_toNat.mp h
  rw [isPlainDigit, Bool.and_eq_true, decide_eq_true_eq, decide_eq_true_eq]
  exact ⟨Fin.le_def.mpr hlow, Fin.le_def.mpr hhigh⟩

theorem exists_digit_of_isPlainDigit {c : CodePoint} (h : isPlainDigit c = true) :
    ∃ d : Char, d.isDigit = true ∧ CodePoint.ofChar d = c := by
  rw [isPlainDigit, Bool.and_eq_true, decide_eq_true_eq, decide_eq_true_eq, Fin.le_def, Fin.le_def] at h
  have hlow : 48 ≤ c.val := h.1
  have hhigh : c.val ≤ 57 := h.2
  have hchar : (Nat.digitChar (c.val - 48)).toNat = c.val := by
    rw [Nat.toNat_digitChar_of_lt_ten (by omega)]
    exact Nat.add_sub_of_le hlow
  refine ⟨Nat.digitChar (c.val - 48), Char.isDigit_iff_toNat.mpr ?_, Fin.ext hchar⟩
  rw [hchar]
  exact h

theorem exists_digits_of_isPlainDigit {t : Text} (h : ∀ c ∈ t, isPlainDigit c = true) :
    ∃ digits : List Char, (∀ d ∈ digits, d.isDigit = true) ∧ digits.map CodePoint.ofChar = t := by
  induction t with
  | nil => exact ⟨[], nofun, rfl⟩
  | cons c rest ih =>
    obtain ⟨d, hd, rfl⟩ := exists_digit_of_isPlainDigit (h c List.mem_cons_self)
    obtain ⟨digits, hdigits, rfl⟩ := ih fun c hc => h c (List.mem_cons_of_mem _ hc)
    exact ⟨d :: digits, List.forall_mem_cons.mpr ⟨hd, hdigits⟩, rfl⟩

theorem isPlain_ofInt {i : Int} (h : 1 ≤ i) : IsPlain (Text.ofInt i) := by
  rw [Text.ofInt, if_neg (by omega), Text.ofNat_eq_map]
  refine ⟨fun hnil => Nat.toDigits_ne_nil (List.map_eq_nil_iff.mp hnil), fun c hc => ?_, fun hzero => ?_⟩
  · obtain ⟨d, hd, rfl⟩ := List.mem_map.mp hc
    exact isPlainDigit_ofChar (Text.isDigit_of_mem_toDigits d hd)
  · rw [List.head?_map, Option.map_eq_some_iff] at hzero
    obtain ⟨d, hd, heq⟩ := hzero
    rw [CodePoint.ofChar_injective heq] at hd
    have := Text.eq_zero_of_head?_toDigits hd
    omega

/-- Among the ways to write a number from one on there is one plain numeral, the one that is printed. -/
theorem eq_ofInt_iff_isPlain {t : Text} {i : Int} (h : integer? t = some i) (hi : 1 ≤ i) :
    t = Text.ofInt i ↔ IsPlain t := by
  constructor
  · rintro rfl
    exact isPlain_ofInt hi
  · rintro ⟨hne, hplain, hlead⟩
    obtain ⟨digits, hdigits, rfl⟩ := exists_digits_of_isPlainDigit hplain
    cases digits with
    | nil => exact absurd rfl hne
    | cons d rest =>
      have hzero : d ≠ '0' := by
        rintro rfl
        exact hlead rfl
      rw [integer?_digits hdigits, natural?_digits hdigits (List.cons_ne_nil d rest)] at h
      obtain ⟨n, hn, rfl⟩ := Option.map_eq_some_iff.mp h
      obtain rfl := Option.some.inj (Option.ite_none_right_eq_some.mp hn).2
      rw [Text.ofInt, if_neg (by omega), Text.ofNat_eq_map, Int.natAbs_natCast,
        Text.toDigits_ofDigitChars hdigits hzero]

end Numeral
end DeckEdit
