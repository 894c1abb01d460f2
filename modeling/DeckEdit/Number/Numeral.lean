import DeckEdit.Text.Blank
import DeckEdit.Text.Digit

/-! Integers as people write them. A numeral has decimal digits of any script, with single underscores
    between digits, a sign, and white space around. A configured integer has ASCII digits; it may have
    zeros in front and a fraction of zeros, which are taken away before it is read. Integers of too many
    digits are neither read nor written. -/

namespace DeckEdit
namespace Numeral

/-- The most digits a numeral may have, leading zeros included. -/
def maxDigits : Nat := 4300

/-- Reads on in a run of digits: the number of digits and their value, starting from those of the
    digits before. An underscore must stand between two digits. -/
def readDigits (afterDigit : Bool) (count value : Nat) : Text → Option (Nat × Nat)
  | [] => if afterDigit then some (count, value) else none
  | c :: rest =>
    if c = '_' then
      if afterDigit then readDigits false count value rest else none
    else
      match c.digitValue? with
      | some d => readDigits true (count + 1) (10 * value + d) rest
      | none => none

def natural? (t : Text) : Option Nat :=
  match readDigits false 0 0 t with
  | some (count, value) => if count ≤ maxDigits then some value else none
  | none => none

def integer? (t : Text) : Option Int :=
  match t.trimBoth CodePoint.isWhiteSpace with
  | '-' :: digits => (natural? digits).map fun n => -(n : Int)
  | '+' :: digits => (natural? digits).map fun n => (n : Int)
  | digits => (natural? digits).map fun n => (n : Int)

/-! ### Writing -/

/-- An integer has more digits than a numeral may have. -/
structure TooLong where
  deriving DecidableEq, Repr

def TooLong.message (_ : TooLong) : String :=
  "Exceeds the limit (4300 digits) for integer string conversion; " ++
    "use sys.set_int_max_str_digits() to increase the limit"

/-- The text of an integer that has not too many digits; a sign does not count as one. -/
def write (i : Int) : Except TooLong Text :=
  if (Text.ofNat i.natAbs).length ≤ maxDigits then .ok (Text.ofInt i) else .error {}

/-! ### Configured integers -/

inductive Unreadable where
  | malformed
  | tooLong
  deriving DecidableEq, Repr

def isPlainDigit (c : CodePoint) : Bool :=
  CodePoint.ofChar '0' ≤ c && c ≤ CodePoint.ofChar '9'

/-- The number that ASCII digits spell, with no zero in front of others. Too many digits at the front are
    too many, whatever follows them. -/
def plainNatural (t : Text) : Except Unreadable Nat :=
  match t with
  | ['0'] => .ok 0
  | '0' :: _ => .error .malformed
  | _ =>
    let digits := t.takeWhile isPlainDigit
    if maxDigits < digits.length then .error .tooLong
    else if digits.isEmpty || digits.length < t.length then .error .malformed
    else .ok (digits.foldl (fun n c => 10 * n + (c.val - '0'.toNat)) 0)

/-- The integer that ASCII digits spell, after a minus sign or alone. -/
def plainInteger (t : Text) : Except Unreadable Int :=
  match t with
  | '-' :: digits => (plainNatural digits).map fun n => -(n : Int)
  | digits => (plainNatural digits).map fun n => (n : Int)

/-- The text without the zeros, and underscores among them, at its front. The last one stays if nothing
    or a fraction follows. A digit or a minus sign must be at the front before and after. -/
def withoutLeadingZeros? (t : Text) : Option Text :=
  match t with
  | '0' :: _ =>
    let leading := t.takeWhile fun (c : CodePoint) => c = '0' ∨ c = '_'
    let rest := t.drop leading.length
    let lastLeading := leading.drop (leading.length - 1)
    match rest with
    | [] => some lastLeading
    | '.' :: _ => some (lastLeading ++ rest)
    | c :: _ => if isPlainDigit c ∨ c = '-' then some rest else none
  | c :: _ => if isPlainDigit c ∨ c = '-' then some t else none
  | [] => none

/-- The text without a fraction of zeros. A point with nothing after it is no fraction. -/
def withoutZeroFraction (t : Text) : Text :=
  match t.splitAt? (CodePoint.ofChar '.') with
  | some (whole, fraction) =>
    if !fraction.isEmpty && fraction.all (· == CodePoint.ofChar '0') then whole else t
  | none => t

/-- Underscores stand alone, and none ends the text. -/
def underscoresApart : Text → Bool
  | [] => true
  | ['_'] => false
  | '_' :: '_' :: _ => false
  | _ :: rest => underscoresApart rest

/-- The text without its underscores, if they stand alone and at neither end. -/
def withoutUnderscores (t : Text) : Text :=
  let underscore : CodePoint := '_'
  if t.head? == some underscore || !underscoresApart t then t else t.filter (· != underscore)

/-- The text without what may be left out: zeros in front, a fraction of zeros, and underscores. -/
def tidyDigits? (t : Text) : Option Text :=
  (withoutLeadingZeros? t).map fun t => withoutUnderscores (withoutZeroFraction t)

/-- The text without white space around it, a plus sign, and what may be left out among the digits. -/
def tidy? (t : Text) : Option Text :=
  match t.trimBoth CodePoint.isWhiteSpace with
  | '+' :: '-' :: _ => none
  | '+' :: digits => tidyDigits? digits
  | '-' :: digits => (tidyDigits? digits).map ('-' :: ·)
  | digits => tidyDigits? digits

/-- The integer that a configured text spells, as it stands or when it is tidied. Only as it stands it
    can be too long. -/
def configured (t : Text) : Except Unreadable Int :=
  match plainInteger t with
  | .error .malformed =>
    match (tidy? t).map plainInteger with
    | some (.ok i) => .ok i
    | _ => .error .malformed
  | answer => answer

end Numeral
end DeckEdit
