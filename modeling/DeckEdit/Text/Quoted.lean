import DeckEdit.Text.Printable

/-! Texts and bytes between quotation marks, as messages show them. -/

namespace DeckEdit
namespace Text

/-- The quotation mark around a text: the single one, unless the text holds it and not the double
    one. -/
def quotationMark (t : Text) : CodePoint :=
  if t.contains (CodePoint.ofChar '\'') && !t.contains (CodePoint.ofChar '"') then '"' else '\''

/-- A code point as it stands between quotation marks of that kind. What cannot be seen is escaped,
    with as many digits as its number needs: two, four or eight. -/
def escapedIn (mark : CodePoint) (c : CodePoint) : Text :=
  if c = mark ∨ c = '\\' then ['\\', c]
  else if c = '\n' then "\\n"
  else if c = '\r' then "\\r"
  else if c = '\t' then "\\t"
  else if c.isPrintable then [c]
  else if c.val < 0x100 then "\\x" ++ hexDigits c.val 2
  else if c.val < 0x10000 then "\\u" ++ hexDigits c.val 4
  else "\\U" ++ hexDigits c.val 8

def quoted (t : Text) : Text :=
  let mark := quotationMark t
  [mark] ++ t.flatMap (escapedIn mark) ++ [mark]

/-- Bytes as messages show them: after a `b`, each as the ASCII character it stands for, or escaped. -/
def quotedBytes (bytes : List UInt8) : Text :=
  let t := bytes.map fun b => CodePoint.ofNat b.toNat
  let mark := quotationMark t
  let escape (c : CodePoint) : Text :=
    if c.val < 0x80 then escapedIn mark c else "\\x" ++ hexDigits c.val 2
  "b" ++ [mark] ++ t.flatMap escape ++ [mark]

end Text
end DeckEdit
