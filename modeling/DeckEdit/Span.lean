import DeckEdit.Text.Blank

/-! The span of a reply that may hold its JSON value: from the first opening delimiter to the
    delimiter that balances it. Only the pair that opens the span is counted, and only outside
    string literals, so the span is found without reading the value. -/

namespace DeckEdit
namespace Span

/-- The two pairs of delimiters a span can stand between. -/
inductive Pair where
  | braces
  | brackets
  deriving DecidableEq, Repr

namespace Pair

def opening : Pair → CodePoint
  | braces => '{'
  | brackets => '['

def closing : Pair → CodePoint
  | braces => '}'
  | brackets => ']'

def opened? (c : CodePoint) : Option Pair :=
  if c = braces.opening then some braces
  else if c = brackets.opening then some brackets
  else none

end Pair

/-- Where the scan stands: outside string literals, inside one, or right after a backslash in one. -/
inductive Mode where
  | plain
  | quoted
  | escaped
  deriving DecidableEq, Repr

/-- The mode after a code point: a quotation mark opens or closes a literal, and inside one a
    backslash takes the next code point with it. -/
def Mode.next : Mode → CodePoint → Mode
  | plain, c => if c = '"' then quoted else plain
  | quoted, c => if c = '\\' then escaped else if c = '"' then plain else quoted
  | escaped, _ => quoted

/-- The number of open pairs after a code point; inside a literal it stays the same. -/
def depthAfter (pair : Pair) (mode : Mode) (depth : Nat) (c : CodePoint) : Nat :=
  if mode = .plain then
    if c = pair.opening then depth + 1 else if c = pair.closing then depth - 1 else depth
  else depth

/-- The shortest beginning of the text after which no pair is open, put after what was `taken`
    (last code point first); none if some pair stays open to the end. -/
def closeFrom (pair : Pair) (mode : Mode) (depth : Nat) (taken : Text) : Text → Option Text
  | [] => none
  | c :: rest =>
    match depthAfter pair mode depth c with
    | 0 => some (c :: taken).reverse
    | depth + 1 => closeFrom pair (mode.next c) (depth + 1) (c :: taken) rest

/-- The balanced span that starts with the first code point of the text. -/
def balanced? : Text → Option Text
  | [] => none
  | c :: rest =>
    match Pair.opened? c with
    | none => none
    | some pair => closeFrom pair .plain 1 [c] rest

/-- The span of a reply: none if the reply opens no pair or never closes the first one. -/
def find? (reply : Text) : Option Text :=
  balanced? (reply.trim.dropWhile fun c => (Pair.opened? c).isNone)

end Span
end DeckEdit
