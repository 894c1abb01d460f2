import DeckEdit.Text.Basic

/-! The code points that count as blank around a text, and texts without them at both ends. -/

namespace DeckEdit

/-- A blank: a space, tab or line break of any script, or one of the four separators U+001C to
    U+001F. -/
def CodePoint.isBlank (c : CodePoint) : Bool :=
  (0x09 ≤ c.val && c.val ≤ 0x0D) || (0x1C ≤ c.val && c.val ≤ 0x20) || c.val == 0x85 ||
  c.val == 0xA0 || c.val == 0x1680 || (0x2000 ≤ c.val && c.val ≤ 0x200A) || c.val == 0x2028 ||
  c.val == 0x2029 || c.val == 0x202F || c.val == 0x205F || c.val == 0x3000

/-- A blank by the White_Space property, which leaves out the separators U+001C to U+001F. -/
def CodePoint.isWhiteSpace (c : CodePoint) : Bool :=
  c.isBlank && !(0x1C ≤ c.val && c.val ≤ 0x1F)

namespace Text

/-- The text without the code points at either end that satisfy `p`. -/
def trimBoth (p : CodePoint → Bool) (t : Text) : Text :=
  ((t.dropWhile p).reverse.dropWhile p).reverse

def trim (t : Text) : Text :=
  trimBoth CodePoint.isBlank t

end Text
end DeckEdit
