/-! Floating-point numbers in binary with 53 bits of precision, as exact data. A finite number keeps
    its sign, its mantissa and its exponent, so that zero has two signs and nothing is lost in
    comparing, reading or writing. Arithmetic is not needed here, only rounding to the nearest. -/

namespace DeckEdit

/-- A binary floating-point number of 64 bits. `finite negative m e` is `m · 2 ^ e` with its sign:
    in the one spelling that `Binary64.ofRatio` gives each number, `m` has 53 bits, or fewer if
    `e` is `-1074`. -/
inductive Binary64 where
  | nan
  | infinite (negative : Bool)
  | finite (negative : Bool) (mantissa : Nat) (exponent : Int)
  deriving DecidableEq, Repr

namespace Binary64

/-- The quotient rounded to the nearest number, and from halfway to the even one. -/
def roundDiv (num den : Nat) : Nat :=
  let quotient := num / den
  let twice := 2 * (num % den)
  if den < twice || (twice == den && quotient % 2 == 1) then quotient + 1 else quotient

/-- `num / den · 2 ^ (-e)` as a ratio of natural numbers. -/
def scaled (num den : Nat) (e : Int) : Nat × Nat :=
  if e < 0 then (num * Nat.pow 2 e.natAbs, den) else (num, den * Nat.pow 2 e.natAbs)

/-- The least exponent, and the one all numbers below the normal range have. -/
def minExponent : Int := -1074

def maxExponent : Int := 971

/-- The least mantissa of 53 bits. -/
def leastMantissa : Nat := 0x10000000000000

/-- The exponent at which `num / den` has a mantissa of 53 bits, if that is not too small. -/
def exponentFor (num den : Nat) : Int :=
  let guess : Int := (num.log2 : Int) - den.log2 - 53
  let s := scaled num den guess
  let fitted := if s.1 / s.2 < 2 * leastMantissa then guess else guess + 1
  max fitted minExponent

/-- The number nearest to `num / den`, from halfway the one with the even mantissa; infinite past
    the greatest finite number. -/
def ofRatio (negative : Bool) (num den : Nat) : Binary64 :=
  if num = 0 then finite negative 0 minExponent
  else
    let e := exponentFor num den
    let s := scaled num den e
    let m := roundDiv s.1 s.2
    let (m, e) := if m = 2 * leastMantissa then (leastMantissa, e + 1) else (m, e)
    if maxExponent < e then infinite negative else finite negative m e

/-- The number nearest to `digits · 10 ^ exponent`. Outside the range of the format the answer is
    given without forming the power. -/
def ofDecimal (negative : Bool) (digits : Nat) (exponent : Int) : Binary64 :=
  if digits = 0 then finite negative 0 minExponent
  else
    let magnitude : Int := (digits.log2 : Int) * 3 / 10 + exponent
    if 400 < magnitude then infinite negative
    else if (digits.log2 : Int) * 4 / 10 + exponent < -400 then finite negative 0 minExponent
    else if exponent < 0 then ofRatio negative digits (Nat.pow 10 exponent.natAbs)
    else ofRatio negative (digits * Nat.pow 10 exponent.natAbs) 1

def ofInt (i : Int) : Binary64 :=
  ofRatio (i < 0) i.natAbs 1

def isFinite : Binary64 → Bool
  | finite .. => true
  | _ => false

def isZero : Binary64 → Bool
  | finite _ m _ => m == 0
  | _ => false

/-- The value of a finite number that is an integer. -/
def toInt? : Binary64 → Option Int
  | finite negative m e =>
    let signed (n : Nat) : Int := if negative then -(n : Int) else n
    if 0 ≤ e then some (signed (m * Nat.pow 2 e.natAbs))
    else if m % Nat.pow 2 e.natAbs = 0 then some (signed (m / Nat.pow 2 e.natAbs))
    else none
  | _ => none

end Binary64
end DeckEdit
