/-! Text as a list of Unicode code points. A lone surrogate is a code point like any other, because
    an escape in a JSON text can spell one; texts are ordered by code point. -/

namespace DeckEdit

/-- A Unicode code point, surrogates included. -/
abbrev CodePoint := Fin 0x110000

namespace CodePoint

def ofChar (c : Char) : CodePoint :=
  ⟨c.toNat, by
    rcases c.valid with h | h
    · exact Nat.lt_trans h (by decide)
    · exact h.2⟩

instance : Coe Char CodePoint := ⟨ofChar⟩

/-- The code point of that number, and U+FFFD for a number past the last code point. -/
def ofNat (n : Nat) : CodePoint :=
  if h : n < 0x110000 then ⟨n, h⟩ else ofChar '\uFFFD'

/-- Half of a surrogate pair: no character of its own, and without a form in UTF-8. -/
def isSurrogate (c : CodePoint) : Bool :=
  0xD800 ≤ c.val && c.val ≤ 0xDFFF

/-- The character of a code point that is not a surrogate. -/
def toChar? (c : CodePoint) : Option Char :=
  if h : c.val.isValidChar then some (Char.ofNatAux c.val h) else none

theorem ofChar_injective {c d : Char} (h : ofChar c = ofChar d) : c = d :=
  Char.ext (UInt32.toNat_inj.1 (congrArg Fin.val h : (ofChar c).val = (ofChar d).val))

end CodePoint

/-- A text: its code points in order. -/
abbrev Text := List CodePoint

namespace Text

def ofString (s : String) : Text :=
  s.toList.map CodePoint.ofChar

instance : Coe String Text := ⟨ofString⟩

/-- The text as a string, with U+FFFD in place of each surrogate. -/
def toString (t : Text) : String :=
  String.ofList (t.map fun c => c.toChar?.getD '\uFFFD')

def ofNat (n : Nat) : Text :=
  (Nat.toDigits 10 n).map CodePoint.ofChar

/-- The decimal digits of an integer, after a minus sign if it is negative. -/
def ofInt (i : Int) : Text :=
  if i < 0 then '-' :: ofNat i.natAbs else ofNat i.natAbs

/-- The last `count` digits of a number in base sixteen. -/
def hexDigits (n : Nat) : Nat → Text
  | 0 => []
  | count + 1 => hexDigits (n / 16) count ++ [CodePoint.ofChar (Nat.digitChar (n % 16))]

/-- The text with each surrogate replaced by U+FFFD, once for each of the three bytes that would spell
    it if UTF-8 had a form for it. -/
def withoutSurrogates (t : Text) : Text :=
  t.flatMap fun c => if c.isSurrogate then List.replicate 3 (CodePoint.ofChar '\uFFFD') else [c]

/-- Two texts of strings are equal only if the strings are. -/
theorem ofString_injective {s t : String} (h : ofString s = ofString t) : s = t := by
  have hl := List.map_inj_right (fun _ _ => CodePoint.ofChar_injective) |>.1 h
  exact String.toList_inj.1 hl

/-- Order by code point; a text stands after its own beginnings. -/
def le : Text → Text → Bool
  | [], _ => true
  | _ :: _, [] => false
  | c :: s, d :: t => c < d || c == d && le s t

def join (separator : Text) : List Text → Text
  | [] => []
  | [t] => t
  | t :: ts => t ++ separator ++ join separator ts

/-- The texts in strictly increasing order, each once. -/
def sortedDistinct (ts : List Text) : List Text :=
  ts.eraseDups.mergeSort le

/-- What stands before the first `c`, and what stands after it; no such `c`, no answer. -/
def splitAt? (c : CodePoint) (t : Text) : Option (Text × Text) :=
  match t.span (· != c) with
  | (_, []) => none
  | (before, _ :: after) => some (before, after)

end Text
end DeckEdit
