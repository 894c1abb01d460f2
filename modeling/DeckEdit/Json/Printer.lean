import DeckEdit.Json.Basic
import DeckEdit.Number.Shortest

/-! Writing JSON, on one line or indented. Code points stand for themselves except where the grammar
    needs an escape, so a text is legible in any script. -/

namespace DeckEdit
namespace Json

/-- A code point as it stands in a text literal. -/
def escaped (c : CodePoint) : Text :=
  if c = '"' then "\\\""
  else if c = '\\' then "\\\\"
  else if c = '\n' then "\\n"
  else if c = '\r' then "\\r"
  else if c = '\t' then "\\t"
  else if c.val = 0x0C then "\\f"
  else if c.val = 0x08 then "\\b"
  else if c.val < 0x20 then "\\u" ++ Text.hexDigits c.val 4
  else [c]

def quote (t : Text) : Text :=
  "\"" ++ t.flatMap escaped ++ "\""

/-- How a value is laid out: on one line, or with each item on a line of its own, indented by so many
    spaces for each level. A width below one indents nothing. -/
inductive Layout where
  | oneLine
  | indented (width : Int)
  deriving DecidableEq, Repr

/-- What stands before an item on that level, and before the end of a container that holds items. -/
def Layout.lineBreak (layout : Layout) (level : Nat) : Text :=
  match layout with
  | oneLine => []
  | indented width => "\n" ++ List.replicate (width.toNat * level) (CodePoint.ofChar ' ')

def Layout.separator (layout : Layout) (level : Nat) : Text :=
  match layout with
  | oneLine => ", "
  | indented _ => "," ++ layout.lineBreak level

/-- A container's text around that of its items; an empty container has nothing between its ends. -/
def Layout.enclose (layout : Layout) (level : Nat) (opening closing : Text) (items : Text) : Text :=
  if items.isEmpty then opening ++ closing
  else opening ++ layout.lineBreak (level + 1) ++ items ++ layout.lineBreak level ++ closing

mutual

def printAt (layout : Layout) (level : Nat) : Json → Text
  | null => "null"
  | bool b => if b then "true" else "false"
  | int i => Text.ofInt i
  | float f => f.toText Binary64.Spelling.json
  | text t => quote t
  | array items => layout.enclose level "[" "]" (printItems layout (level + 1) items)
  | object members => layout.enclose level "\x7b" "\x7d" (printMembers layout (level + 1) members)

def printItems (layout : Layout) (level : Nat) : List Json → Text
  | [] => []
  | v :: rest =>
    printAt layout level v ++
      (if rest.isEmpty then [] else layout.separator level ++ printItems layout level rest)

def printMembers (layout : Layout) (level : Nat) : List (Text × Json) → Text
  | [] => []
  | (name, v) :: rest =>
    quote name ++ ": " ++ printAt layout level v ++
      (if rest.isEmpty then [] else layout.separator level ++ printMembers layout level rest)

end

def print (layout : Layout) (v : Json) : Text :=
  printAt layout 0 v

end Json
end DeckEdit
