import DeckEdit.Text.Blank

/-! Bindings, as a file of variables lists them: a name, and its value after an equals sign. The word
    `export` may stand in front of the name. The name may stand between single quotation marks, the value
    between marks of either kind, and then it may go on over several lines. A number sign starts a
    comment. A binding of any other shape is passed over, together with the rest of its line. -/

namespace DeckEdit
namespace Settings

/-- A name and its value as it is written, if there is one. -/
structure Binding where
  name : Text
  value : Option Text
  deriving DecidableEq, Repr

namespace Binding

/-- What has been read, and the text after it; or the text from which on the line makes no sense. -/
abbrev Step (α : Type) := Except Text (α × Text)

/-- A blank that does not end the line. -/
def isGap (c : CodePoint) : Bool :=
  c.isBlank && c != CodePoint.ofChar '\n'

def skipGaps (t : Text) : Text :=
  t.dropWhile isGap

def skipLine (t : Text) : Text :=
  (t.dropWhile (· != CodePoint.ofChar '\n')).drop 1

/-- Passes over the word `export` in front of a name. -/
def skipExport (t : Text) : Text :=
  let word : Text := "export"
  let rest := t.drop word.length
  if word.isPrefixOf t && (rest.head?.map isGap).getD false then skipGaps rest else t

/-- Reads a name. A comment has none. -/
def readName (t : Text) : Step (Option Text) :=
  match t with
  | '#' :: _ => .ok (none, t)
  | '\'' :: inside =>
    match Text.splitAt? '\'' inside with
    | some (c :: name, rest) => .ok (some (c :: name), rest)
    | _ => .error t
  | _ =>
    let equals : CodePoint := '='
    let comment : CodePoint := '#'
    match t.span fun c => c != equals && c != comment && !c.isBlank with
    | ([], _) => .error t
    | (name, rest) => .ok (some name, rest)

/-- What a backslash and a code point stand for between quotation marks of that kind. Only double marks
    know letters for control characters. -/
def unescaped? (mark c : CodePoint) : Option CodePoint :=
  if c = '\\' ∨ c = '\'' then some c
  else if mark = '"' then
    match c with
    | '"' => some c
    | 'a' => some 0x07
    | 'b' => some 0x08
    | 't' => some 0x09
    | 'n' => some 0x0A
    | 'v' => some 0x0B
    | 'f' => some 0x0C
    | 'r' => some 0x0D
    | _ => none
  else none

/-- Reads up to the closing mark, which is the first one that does not follow a backslash of its own. -/
def readQuoted? (mark : CodePoint) : Text → Option (Text × Text)
  | [] => none
  | '\\' :: c :: rest =>
    let spelled : Text :=
      match unescaped? mark c with
      | some d => [d]
      | none => ['\\', c]
    (readQuoted? mark rest).map fun (t, rest) => (spelled ++ t, rest)
  | c :: rest =>
    if c = mark then some ([], rest)
    else (readQuoted? mark rest).map fun (t, rest) => (c :: t, rest)

/-- A value without quotation marks: what stands before a number sign that follows a blank. -/
def plainValue (afterBlank : Bool) : Text → Text
  | [] => []
  | c :: rest =>
    if afterBlank ∧ c = '#' then [] else c :: plainValue c.isBlank rest

/-- Reads a value, from the equals sign on. -/
def readValue (t : Text) : Step Text :=
  let start := skipGaps t
  let quoted (mark : CodePoint) (inside : Text) : Step Text :=
    match readQuoted? mark inside with
    | some (value, rest) => .ok (value, rest)
    | none => .error start
  match start with
  | '\'' :: inside => quoted '\'' inside
  | '"' :: inside => quoted '"' inside
  | _ =>
    let (line, rest) := start.span (· != CodePoint.ofChar '\n')
    .ok ((plainValue (start.length < t.length) line).trim, rest)

/-- Reads the end of a line, with the comment in front of it. -/
def readEnd (t : Text) : Except Text Text :=
  match skipGaps t with
  | [] => .ok []
  | '#' :: rest => .ok (skipLine rest)
  | '\n' :: rest => .ok rest
  | _ => .error t

/-- Reads a binding, or a comment in place of one. -/
def read (t : Text) : Except Text (Option Binding × Text) := do
  let (name, rest) ← readName (skipExport t)
  let (value, rest) ←
    match skipGaps rest with
    | '=' :: rest => (readValue rest).map fun (value, rest) => (some value, rest)
    | rest => pure (none, rest)
  let rest ← readEnd rest
  return (name.map fun name => ⟨name, value⟩, rest)

/-- Reads bindings as long as there is fuel. One piece of it for each code point, and one more, is
    enough, because a binding, a comment or what is passed over takes up at least one. -/
def readAll (fuel : Nat) (t : Text) : List Binding :=
  match fuel with
  | 0 => []
  | fuel + 1 =>
    match t.dropWhile CodePoint.isBlank with
    | [] => []
    | start =>
      match read start with
      | .ok (binding, rest) => binding.toList ++ readAll fuel rest
      | .error rest => readAll fuel (skipLine rest)

/-- The bindings in a text whose line breaks are line feeds. -/
def ofText (t : Text) : List Binding :=
  readAll (t.length + 1) t

end Binding
end Settings
end DeckEdit
