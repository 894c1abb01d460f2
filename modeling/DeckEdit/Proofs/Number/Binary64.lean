import DeckEdit.Number.Binary64
import Mathlib.Algebra.Order.Field.Power
import Mathlib.Data.Rat.Cast.Order
import Mathlib.Tactic.FieldSimp
import Mathlib.Tactic.Linarith
import Mathlib.Tactic.NormNum
import Mathlib.Tactic.Ring

/-! The rational numbers that floating-point numbers stand for: which of them are integers, and which
    integers are too great for the format. -/

namespace DeckEdit
namespace Binary64

def signed (negative : Bool) (n : Nat) : Int :=
  if negative then -n else n

theorem signed_mul (negative : Bool) (m n : Nat) : signed negative (m * n) = signed negative m * n := by
  cases negative <;> simp [signed]

theorem natAbs_signed (negative : Bool) (n : Nat) : (signed negative n).natAbs = n := by
  cases negative <;> simp [signed]

/-- The number that a finite floating-point number stands for. -/
def value? : Binary64 → Option ℚ
  | finite negative m e => some (signed negative m * 2 ^ e)
  | _ => none

theorem isFinite_iff {f : Binary64} : f.isFinite = true ↔ ∃ q, f.value? = some q := by
  cases f <;> simp [isFinite, value?]

/-! ### Integers among floating-point numbers -/

theorem toInt?_finite_of_nonneg (negative : Bool) (m k : Nat) :
    (finite negative m k).toInt? = some (signed negative m * 2 ^ k) := by
  have hpow : ((Nat.pow 2 k : Nat) : Int) = 2 ^ k := by simp
  rw [toInt?, if_pos (Int.natCast_nonneg k), Int.natAbs_natCast, ← hpow, ← signed_mul]
  rfl

theorem toInt?_finite_of_neg (negative : Bool) (m : Nat) {k : Nat} (hk : 0 < k) {i : Int} :
    (finite negative m (-k)).toInt? = some i ↔ signed negative m = i * 2 ^ k := by
  have hpow : ((Nat.pow 2 k : Nat) : Int) = 2 ^ k := by simp
  have hpos : 0 < Nat.pow 2 k := Nat.pow_pos (by decide)
  rw [toInt?, if_neg (by omega), Int.natAbs_neg, Int.natAbs_natCast]
  split
  · rename_i hmod
    -- The mantissa is a multiple of the power, and the quotients are compared.
    have hm : signed negative m = signed negative (m / Nat.pow 2 k) * 2 ^ k := by
      rw [← hpow, ← signed_mul, Nat.div_mul_cancel (Nat.dvd_of_mod_eq_zero hmod)]
    rw [hm, Option.some.injEq]
    constructor
    · rintro rfl
      rfl
    · intro h
      exact Int.eq_of_mul_eq_mul_right (by positivity) h
  · rename_i hmod
    constructor
    · intro h
      cases h
    · intro h
      have habs : m = i.natAbs * Nat.pow 2 k := by
        have := congrArg Int.natAbs h
        rwa [natAbs_signed, Int.natAbs_mul, ← hpow, Int.natAbs_natCast] at this
      exact absurd (by rw [habs, Nat.mul_mod_left]) hmod

/-- A number gives an integer exactly if it stands for one. -/
theorem toInt?_eq_some {f : Binary64} {i : Int} : f.toInt? = some i ↔ f.value? = some (i : ℚ) := by
  cases f with
  | nan => simp [toInt?, value?]
  | infinite negative => simp [toInt?, value?]
  | finite negative m e =>
    rw [value?, Option.some.injEq]
    rcases lt_or_ge e 0 with hneg | hnonneg
    · obtain ⟨k, rfl⟩ : ∃ k : Nat, e = -k := ⟨e.natAbs, by omega⟩
      have hpow : (2 : ℚ) ^ k ≠ 0 := by positivity
      rw [toInt?_finite_of_neg negative m (by omega), zpow_neg, zpow_natCast, ← div_eq_mul_inv,
        div_eq_iff hpow]
      norm_cast
    · obtain ⟨k, rfl⟩ := Int.eq_ofNat_of_zero_le hnonneg
      rw [toInt?_finite_of_nonneg, zpow_natCast, Option.some.injEq]
      norm_cast

/-! ### Integers of the format -/

/-- Rounding to the nearest stays below an even bound up to the middle under it. -/
theorem roundDiv_lt_iff {num half bound : Nat} (hhalf : 0 < half) (heven : bound % 2 = 0) :
    roundDiv num (2 * half) < bound ↔ num + half < 2 * half * bound := by
  have hnum := Nat.div_add_mod num (2 * half)
  have hrest := Nat.mod_lt num (Nat.mul_pos (by decide : 0 < 2) hhalf)
  unfold roundDiv
  dsimp only
  generalize num / (2 * half) = q at *
  generalize num % (2 * half) = r at *
  rcases Nat.lt_trichotomy (q + 1) bound with hlt | heq | hgt
  · have hroom : 2 * half * (q + 2) ≤ 2 * half * bound := Nat.mul_le_mul_left _ hlt
    rw [Nat.mul_add] at hroom
    constructor
    · intro _
      omega
    · intro _
      split <;> omega
  · -- The quotient is odd, so the middle is rounded up to the bound.
    have hroom : 2 * half * bound = 2 * half * q + 2 * half := by rw [← heq, Nat.mul_add, Nat.mul_one]
    split
    · rename_i hup
      simp only [Bool.or_eq_true, Bool.and_eq_true, decide_eq_true_eq, beq_iff_eq] at hup
      omega
    · rename_i hdown
      simp only [Bool.or_eq_true, Bool.and_eq_true, decide_eq_true_eq, beq_iff_eq] at hdown
      omega
  · have hroom : 2 * half * bound ≤ 2 * half * q := Nat.mul_le_mul_left _ (by omega)
    constructor
    · intro h
      split at h <;> omega
    · intro h
      omega

theorem le_scaled_div {num : Nat} (h : num ≠ 0) :
    2 * leastMantissa ≤
      (scaled num 1 ((num.log2 : Int) - 53)).1 / (scaled num 1 ((num.log2 : Int) - 53)).2 := by
  have hlow : 2 ^ num.log2 ≤ num := Nat.log2_self_le h
  have hleast : 2 * leastMantissa = 2 ^ 53 := by decide
  unfold scaled
  split
  · rename_i hneg
    have hexp : ((num.log2 : Int) - 53).natAbs = 53 - num.log2 := by omega
    rw [Nat.div_one, hexp, hleast]
    calc
      2 ^ 53 = 2 ^ num.log2 * 2 ^ (53 - num.log2) := by rw [← Nat.pow_add]; congr 1; omega
      _ ≤ num * 2 ^ (53 - num.log2) := Nat.mul_le_mul_right _ hlow
  · rename_i hnonneg
    have hexp : ((num.log2 : Int) - 53).natAbs = num.log2 - 53 := by omega
    rw [hexp, Nat.one_mul, hleast]
    refine (Nat.le_div_iff_mul_le (Nat.pow_pos (by decide))).mpr ?_
    calc
      2 ^ 53 * 2 ^ (num.log2 - 53) = 2 ^ num.log2 := by rw [← Nat.pow_add]; congr 1; omega
      _ ≤ num := hlow

/-- An integer is rounded in the place of its 53rd binary digit. -/
theorem exponentFor_one {num : Nat} (h : num ≠ 0) : exponentFor num 1 = (num.log2 : Int) - 52 := by
  have hguess : (num.log2 : Int) - (1 : Nat).log2 - 53 = (num.log2 : Int) - 53 := by
    rw [show (1 : Nat).log2 = 0 from rfl]
    omega
  unfold exponentFor
  rw [hguess]
  dsimp only
  rw [if_neg (Nat.not_lt.mpr (le_scaled_div h)), minExponent]
  omega

theorem roundDiv_le (num den : Nat) : roundDiv num den ≤ num / den + 1 := by
  unfold roundDiv
  dsimp only
  split <;> omega

/-- The mantissa may round up to the next power of two, and the exponent grows with it. -/
theorem isFinite_ofRatio_one {negative : Bool} {num : Nat} (h : num ≠ 0) :
    (ofRatio negative num 1).isFinite = true ↔
      let s := scaled num 1 ((num.log2 : Int) - 52)
      (num.log2 : Int) < 1023 ∨
        (num.log2 : Int) = 1023 ∧ roundDiv s.1 s.2 ≠ 2 * leastMantissa := by
  unfold ofRatio
  rw [if_neg h, exponentFor_one h]
  dsimp only
  by_cases hround :
      roundDiv (scaled num 1 ((num.log2 : Int) - 52)).1 (scaled num 1 ((num.log2 : Int) - 52)).2 =
        2 * leastMantissa
  · simp only [hround, if_true, maxExponent]
    split <;> simp [isFinite] <;> omega
  · simp only [hround, if_false, maxExponent]
    split <;> simp [isFinite] <;> omega

/-- At the greatest exponent the mantissa rounds up to the next power of two from the middle on. -/
theorem roundDiv_ne_iff {num half : Nat} (hhalf : 0 < half) (hnum : num < 2 * half * (2 * leastMantissa)) :
    roundDiv num (2 * half) ≠ 2 * leastMantissa ↔ num + half < 2 * half * (2 * leastMantissa) := by
  rw [← roundDiv_lt_iff hhalf (by decide)]
  have hquotient : num / (2 * half) < 2 * leastMantissa := Nat.div_lt_of_lt_mul hnum
  have hle := roundDiv_le num (2 * half)
  omega

/-- A natural number overflows the format from the middle between the greatest finite number and the
    next power of two on. -/
theorem isFinite_ofRatio_one_iff {k : Nat} (hk : k = 970) (negative : Bool) (n : Nat) :
    (ofRatio negative n 1).isFinite = true ↔ n < 2 ^ (54 + k) - 2 ^ k := by
  have hpos := Nat.two_pow_pos k
  -- The powers are too great to be computed; they are multiples of the smallest of them.
  have hpow : ∀ j, 2 ^ (j + k) = 2 ^ j * 2 ^ k := fun j => Nat.pow_add 2 j k
  by_cases hzero : n = 0
  · subst hzero
    have hmiddle : 0 < 2 ^ (54 + k) - 2 ^ k := by
      rw [hpow]
      omega
    simpa only [ofRatio, if_true, isFinite, true_iff] using hmiddle
  · rw [isFinite_ofRatio_one hzero]
    have hlow : 2 ^ n.log2 ≤ n := Nat.log2_self_le hzero
    have hhigh : n < 2 ^ (n.log2 + 1) := Nat.lt_log2_self
    dsimp only
    rcases Nat.lt_trichotomy n.log2 1023 with hlt | heq | hgt
    · have hbelow : n < 2 ^ (53 + k) :=
        Nat.lt_of_lt_of_le hhigh (Nat.pow_le_pow_right (by decide) (by omega))
      have hexponent : (n.log2 : Int) < 1023 := by omega
      rw [hpow] at hbelow ⊢
      simp only [hexponent, true_or, true_iff]
      omega
    · have hbelow : n < 2 ^ (54 + k) := by rwa [show 54 + k = n.log2 + 1 by omega]
      have hexponent : (n.log2 : Int) = 1023 := by omega
      have hscaled : scaled n 1 ((n.log2 : Int) - 52) = (n, 2 * 2 ^ k) := by
        have habs : ((n.log2 : Int) - 52).natAbs = 1 + k := by omega
        rw [scaled, if_neg (by omega), habs, Nat.pow_eq, Nat.one_mul, hpow, Nat.pow_one]
      have hleast : 2 * leastMantissa = 2 ^ 53 := by decide
      have hbound : n < 2 * 2 ^ k * (2 * leastMantissa) := by
        rw [hpow] at hbelow
        rw [hleast]
        omega
      rw [hscaled, roundDiv_ne_iff hpos hbound, hleast, hpow]
      simp only [hexponent, Int.lt_irrefl, false_or, true_and]
      omega
    · have habove : 2 ^ (54 + k) ≤ n :=
        Nat.le_trans (Nat.pow_le_pow_right (by decide) (by omega)) hlow
      constructor
      · rintro (h | ⟨h, -⟩) <;> omega
      · intro h
        omega

/-- An integer has a finite floating-point number exactly if it is below that middle. -/
theorem isFinite_ofInt (i : Int) : (ofInt i).isFinite = true ↔ i.natAbs < 2 ^ 1024 - 2 ^ 970 := by
  simpa only [ofInt, Nat.reduceAdd] using isFinite_ofRatio_one_iff rfl (i < 0) i.natAbs

end Binary64
end DeckEdit
