import DeckEdit.Text.Basic
import Mathlib.Data.List.TakeDrop
import Mathlib.Data.List.TakeWhile

/-! Texts that are put together with a separator, and what numerals are made of. -/

namespace DeckEdit

theorem CodePoint.ofNat_val (c : CodePoint) : ofNat c.val = c :=
  dif_pos c.isLt

namespace Text

theorem ofString_inj {s t : String} : ofString s = ofString t ↔ s = t :=
  ⟨ofString_injective, congrArg ofString⟩

/-! ### Separators -/

/-- What stands before a separator is read back if it does not hold the separator. -/
theorem splitAt?_append {c : CodePoint} {before : Text} (h : c ∉ before) (after : Text) :
    splitAt? c (before ++ c :: after) = some (before, after) := by
  have hbefore : ∀ d ∈ before, (d != c) = true := by
    intro d hd
    exact bne_iff_ne.mpr fun heq => h (heq ▸ hd)
  rw [splitAt?, List.span_eq_takeWhile_dropWhile, List.takeWhile_append_of_pos hbefore,
    List.dropWhile_append_of_pos hbefore]
  simp

theorem splitAt?_eq_some {c : CodePoint} {t before after : Text} :
    splitAt? c t = some (before, after) ↔ c ∉ before ∧ t = before ++ c :: after := by
  constructor
  · intro h
    have hnot : c ∉ t.takeWhile (· != c) := fun hc => by simpa using List.mem_takeWhile_imp hc
    have hwhole := List.takeWhile_append_dropWhile (p := (· != c)) (l := t)
    rw [splitAt?, List.span_eq_takeWhile_dropWhile] at h
    cases hdrop : t.dropWhile (· != c) with
    | nil =>
      rw [hdrop] at h
      cases h
    | cons d rest =>
      have hd : (d != c) = false := by
        have := List.head?_dropWhile_not (· != c) t
        rw [hdrop] at this
        simpa using this
      obtain rfl : d = c := by simpa using hd
      rw [hdrop] at h hwhole
      cases h
      exact ⟨hnot, hwhole.symm⟩
  · rintro ⟨h, rfl⟩
    exact splitAt?_append h after

/-- In joined texts the first one can be exchanged. -/
theorem exists_join_cons (separator : Text) (rest : List Text) :
    ∃ tail, ∀ t, join separator (t :: rest) = t ++ tail := by
  cases rest with
  | nil => exact ⟨[], fun t => (List.append_nil t).symm⟩
  | cons u us => exact ⟨separator ++ join separator (u :: us), fun t => List.append_assoc ..⟩

/-- So the two parts are told from the whole. -/
theorem append_separator_inj {c : CodePoint} {s t u v : Text} (hs : c ∉ s) (ht : c ∉ t) :
    s ++ c :: u = t ++ c :: v ↔ s = t ∧ u = v := by
  constructor
  · intro h
    have hsplit := congrArg (splitAt? c) h
    rw [splitAt?_append hs, splitAt?_append ht] at hsplit
    exact Prod.mk.inj (Option.some.inj hsplit)
  · rintro ⟨rfl, rfl⟩
    rfl

/-! ### Numerals -/

theorem isDigit_of_mem_toDigits {n : Nat} : ∀ d ∈ Nat.toDigits 10 n, d.isDigit = true :=
  fun _ hd => Nat.isDigit_of_mem_toDigits (by decide) (by decide) hd

theorem notMem_ofNat {d : Char} (hd : d.isDigit = false) (n : Nat) : (d : CodePoint) ∉ ofNat n := by
  intro hmem
  obtain ⟨c, hc, heq⟩ := List.mem_map.mp hmem
  obtain rfl := CodePoint.ofChar_injective heq
  exact Bool.eq_false_iff.mp hd (isDigit_of_mem_toDigits _ hc)

/-- An integer is written with digits and a minus sign. -/
theorem notMem_ofInt {d : Char} (hd : d.isDigit = false) (hsign : d ≠ '-') (i : Int) :
    (d : CodePoint) ∉ ofInt i := by
  unfold ofInt
  split
  · intro hmem
    rcases List.mem_cons.mp hmem with heq | hmem
    · exact hsign (CodePoint.ofChar_injective heq)
    · exact notMem_ofNat hd _ hmem
  · exact notMem_ofNat hd _

theorem ofNat_inj {m n : Nat} : ofNat m = ofNat n ↔ m = n := by
  refine ⟨fun h => ?_, congrArg ofNat⟩
  have hdigits := (List.map_inj_right fun _ _ => CodePoint.ofChar_injective).mp h
  have hvalue := congrArg (Nat.ofDigitChars 10 · 0) hdigits
  simpa only [Nat.ofDigitChars_ten_toDigits] using hvalue

theorem ofInt_inj {i j : Int} : ofInt i = ofInt j ↔ i = j := by
  refine ⟨fun h => ?_, congrArg ofInt⟩
  have hsign (n : Nat) (t : Text) : ofNat n ≠ CodePoint.ofChar '-' :: t := by
    intro heq
    exact notMem_ofNat (d := '-') rfl n (heq ▸ List.mem_cons_self)
  unfold ofInt at h
  split at h <;> split at h
  · have := ofNat_inj.mp (List.cons.inj h).2
    omega
  · exact absurd h.symm (hsign _ _)
  · exact absurd h (hsign _ _)
  · have := ofNat_inj.mp h
    omega

/-- Only zero is written with a zero in front. -/
theorem eq_zero_of_head?_toDigits {n : Nat} (h : (Nat.toDigits 10 n).head? = some '0') : n = 0 := by
  induction n using Nat.strongRecOn with
  | ind n ih =>
    by_cases hsmall : n < 10
    · have hdigit : ∀ m < 10, Nat.digitChar m = '0' → m = 0 := by decide
      rw [Nat.toDigits_of_lt_base hsmall] at h
      exact hdigit n hsmall (Option.some.inj h)
    · obtain ⟨d, digits, hdigits⟩ := List.exists_cons_of_ne_nil (Nat.toDigits_ne_nil (n := n / 10) (b := 10))
      have hzero := ih (n / 10) (by omega)
      rw [Nat.toDigits_of_base_le (by decide) (Nat.not_lt.mp hsmall)] at h
      rw [hdigits] at h hzero
      have := hzero h
      omega

theorem toNat_of_isDigit {d : Char} (h : d.isDigit = true) : ∃ k < 10, d.toNat = '0'.toNat + k := by
  obtain ⟨hlow, hhigh⟩ := Char.isDigit_iff_toNat.mp h
  have hlow : 48 ≤ d.toNat := hlow
  have hhigh : d.toNat ≤ 57 := hhigh
  have hzero : '0'.toNat = 48 := rfl
  exact ⟨d.toNat - 48, by omega, by omega⟩

/-- A digit is written as the number that it is read as. -/
theorem toDigits_digit {d : Char} (h : d.isDigit = true) : Nat.toDigits 10 (d.toNat - '0'.toNat) = [d] := by
  obtain ⟨k, hk, heq⟩ := toNat_of_isDigit h
  rw [heq, Nat.add_sub_cancel_left, Nat.toDigits_of_lt_base hk]
  refine congrArg (fun c => [c]) (Char.toNat_inj.mp ?_)
  rw [Nat.toNat_digitChar_of_lt_ten hk, heq]
  rfl

/-- Digits that follow a number from one on are written as they stand. -/
theorem toDigits_ofDigitChars_of_pos {digits : List Char} (h : ∀ d ∈ digits, d.isDigit = true) {value : Nat}
    (hpos : 0 < value) :
    Nat.toDigits 10 (Nat.ofDigitChars 10 digits value) = Nat.toDigits 10 value ++ digits := by
  induction digits generalizing value with
  | nil => rw [Nat.ofDigitChars_nil, List.append_nil]
  | cons d rest ih =>
    have hd := h d List.mem_cons_self
    obtain ⟨k, hk, heq⟩ := toNat_of_isDigit hd
    have hlt : d.toNat - '0'.toNat < 10 := by omega
    rw [Nat.ofDigitChars_cons, ih (fun c hc => h c (List.mem_cons_of_mem d hc)) (by omega),
      ← Nat.toDigits_append_toDigits (by decide) hpos hlt, toDigits_digit hd, List.append_assoc,
      List.singleton_append]

/-- So are digits without a zero in front. -/
theorem toDigits_ofDigitChars {d : Char} {rest : List Char} (h : ∀ c ∈ d :: rest, c.isDigit = true)
    (hne : d ≠ '0') : Nat.toDigits 10 (Nat.ofDigitChars 10 (d :: rest) 0) = d :: rest := by
  have hd := h d List.mem_cons_self
  obtain ⟨k, hk, heq⟩ := toNat_of_isDigit hd
  have hpos : 0 < d.toNat - '0'.toNat := by
    have : d.toNat ≠ '0'.toNat := fun heq => hne (Char.toNat_inj.mp heq)
    omega
  rw [Nat.ofDigitChars_cons, Nat.mul_zero, Nat.zero_add,
    toDigits_ofDigitChars_of_pos (fun c hc => h c (List.mem_cons_of_mem d hc)) hpos, toDigits_digit hd,
    List.singleton_append]

end Text
end DeckEdit
