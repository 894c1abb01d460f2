import DeckEdit.Number.Binary64
import DeckEdit.Text.Basic

/-! The decimal text of a floating-point number: the fewest digits that read back as the same
    number and, of those, the ones nearest to it. -/

namespace DeckEdit
namespace Binary64

/-- A decimal number: `digits · 10 ^ exponent`. -/
structure Decimal where
  digits : Nat
  exponent : Int
  deriving DecidableEq, Repr

/-- The exponent `p` for which `10 ^ p ≤ num / den < 10 ^ (p + 1)`. The logarithm bounds it from
    below, up to three too low. -/
def leadingExponent (num den : Nat) : Int :=
  let low : Int := ((num.log2 : Int) - den.log2 - 1) * 30103 / 100000 - 1
  let reaches (p : Int) : Bool :=
    if p < 0 then den ≤ num * Nat.pow 10 p.natAbs else den * Nat.pow 10 p.natAbs ≤ num
  if reaches (low + 3) then low + 3
  else if reaches (low + 2) then low + 2
  else if reaches (low + 1) then low + 1
  else low

/-- The two decimals of that exponent on either side of `num / den`, the nearer first; from halfway
    the even one is first. -/
def neighbours (num den : Nat) (exponent : Int) : List Decimal :=
  let (n, d) :=
    if exponent < 0 then (num * Nat.pow 10 exponent.natAbs, den)
    else (num, den * Nat.pow 10 exponent.natAbs)
  let below := n / d
  let nearest := roundDiv n d
  let other := if nearest = below then below + 1 else below
  [⟨nearest, exponent⟩, ⟨other, exponent⟩]

/-- The decimal without up to `count` of the zeros at its end. -/
def Decimal.stripZeros : Nat → Decimal → Decimal
  | 0, d => d
  | count + 1, d =>
    if d.digits ≠ 0 ∧ d.digits % 10 = 0 then
      Decimal.stripZeros count ⟨d.digits / 10, d.exponent + 1⟩
    else d

/-- The most digits a number needs to be told from its neighbours. -/
def maxDigits : Nat := 17

/-- The decimal with the fewest digits that reads back as the positive number `m · 2 ^ e`, the
    nearer one if there are two. -/
def shortest (m : Nat) (e : Int) : Decimal :=
  let (num, den) := if e < 0 then (m, Nat.pow 2 e.natAbs) else (m * Nat.pow 2 e.natAbs, 1)
  let leading := leadingExponent num den
  let pair (count : Nat) := neighbours num den (leading + 1 - count)
  let readsBack (d : Decimal) : Bool := ofDecimal false d.digits d.exponent = finite false m e
  let found := (List.range maxDigits).findSome? fun less => (pair (less + 1)).find? readsBack
  (found.getD ((pair maxDigits).headD ⟨0, 0⟩)).stripZeros maxDigits

private def zeros (n : Nat) : Text :=
  List.replicate n (CodePoint.ofChar '0')

/-- The text of a decimal. Its first digit's exponent decides: from -4 to 15 the digits are written
    around a point, with at least one digit on either side; otherwise the point follows the first
    digit, if more follow, and the exponent has a sign and at least two digits. -/
def Decimal.toText (d : Decimal) : Text :=
  let digits := Text.ofNat d.digits
  let point : Text := "."
  let leading : Int := d.exponent + digits.length - 1
  if leading < -4 ∨ 16 ≤ leading then
    let fraction := digits.drop 1
    let mantissa := if fraction.isEmpty then digits else digits.take 1 ++ point ++ fraction
    let power := Text.ofNat leading.natAbs
    let mark : Text := if leading < 0 then "e-" else "e+"
    mantissa ++ mark ++ zeros (2 - power.length) ++ power
  else if leading < 0 then zeros 1 ++ point ++ zeros (leading.natAbs - 1) ++ digits
  else
    let whole := digits.take (leading.natAbs + 1) ++ zeros d.exponent.toNat
    let fraction := digits.drop (leading.natAbs + 1)
    whole ++ point ++ (if fraction.isEmpty then zeros 1 else fraction)

/-- A decimal is written in digits, a point, and the mark and the sign of an exponent. -/
theorem Decimal.mem_toText {d : Decimal} {c : CodePoint} (h : c ∈ d.toText) :
    (∃ n, c ∈ Text.ofNat n) ∨ c ∈ (".e+-" : Text) := by
  have hzeros {n : Nat} (h : c ∈ zeros n) : ∃ n, c ∈ Text.ofNat n :=
    ⟨0, List.mem_singleton.mpr (List.eq_of_mem_replicate h)⟩
  have hpoint : ("." : Text) ⊆ (".e+-" : Text) := by decide
  have hmark (negative : Prop) [Decidable negative] :
      ((if negative then "e-" else "e+" : Text)) ⊆ (".e+-" : Text) := by
    split <;> decide
  unfold Decimal.toText at h
  dsimp only at h
  split at h
  · simp only [List.mem_append] at h
    rcases h with ((h | h) | h) | h
    · split at h
      · exact .inl ⟨_, h⟩
      · simp only [List.mem_append] at h
        rcases h with (h | h) | h
        · exact .inl ⟨_, List.mem_of_mem_take h⟩
        · exact .inr (hpoint h)
        · exact .inl ⟨_, List.mem_of_mem_drop h⟩
    · exact .inr (hmark _ h)
    · exact .inl (hzeros h)
    · exact .inl ⟨_, h⟩
  · split at h
    · simp only [List.mem_append] at h
      rcases h with ((h | h) | h) | h
      · exact .inl (hzeros h)
      · exact .inr (hpoint h)
      · exact .inl (hzeros h)
      · exact .inl ⟨_, h⟩
    · simp only [List.mem_append] at h
      rcases h with ((h | h) | h) | h
      · exact .inl ⟨_, List.mem_of_mem_take h⟩
      · exact .inl (hzeros h)
      · exact .inr (hpoint h)
      · split at h
        · exact .inl (hzeros h)
        · exact .inl ⟨_, List.mem_of_mem_drop h⟩

/-- How the numbers without a decimal are spelled. -/
structure Spelling where
  nan : Text
  infinity : Text

/-- The text of a number: its shortest decimal after the sign, zero as `0.0`. -/
def toText (spelling : Spelling) : Binary64 → Text
  | nan => spelling.nan
  | infinite negative => if negative then '-' :: spelling.infinity else spelling.infinity
  | finite negative m e =>
    let magnitude : Text := if m = 0 then "0.0" else (shortest m e).toText
    if negative then '-' :: magnitude else magnitude

def Spelling.json : Spelling := ⟨"NaN", "Infinity"⟩

def Spelling.message : Spelling := ⟨"nan", "inf"⟩

end Binary64
end DeckEdit
