import DeckEdit.Number.Shortest
import DeckEdit.Text.Quoted
import DeckEdit.Value.Basic

/-! Values as messages show them. -/

namespace DeckEdit
namespace Value

def commaSeparated (parts : List Text) : Text :=
  Text.join ", " parts

def quotedBool (b : Bool) : Text :=
  if b then "True" else "False"

/-- A key inside a message: texts stand between quotation marks. -/
def Key.quoted : Key → Text
  | .null => "None"
  | .bool b => quotedBool b
  | .int i => Text.ofInt i
  | .float f => f.toText Binary64.Spelling.message
  | .text t => t.quoted

mutual

/-- A value inside a message: texts and bytes stand between quotation marks. -/
def quoted : Value → Text
  | null => "None"
  | bool b => quotedBool b
  | int i => Text.ofInt i
  | float f => f.toText Binary64.Spelling.message
  | text t => t.quoted
  | list items => "[" ++ commaSeparated (quotedItems items) ++ "]"
  | tuple items =>
    match quotedItems items with
    | [item] => "(" ++ item ++ ",)"
    | parts => "(" ++ commaSeparated parts ++ ")"
  | dict entries => "\x7b" ++ commaSeparated (quotedEntries entries) ++ "\x7d"
  | bytes b => Text.quotedBytes b
  | unknown => "<object>"

def quotedItems : List Value → List Text
  | [] => []
  | v :: rest => quoted v :: quotedItems rest

def quotedEntries : List (Key × Value) → List Text
  | [] => []
  | (k, v) :: rest => (k.quoted ++ ": " ++ quoted v) :: quotedEntries rest

end

/-- A value as a message: like `quoted`, but a text is itself. -/
def shown : Value → Text
  | text t => t
  | v => v.quoted

end Value
end DeckEdit
