import DeckEdit.Json.Basic
import DeckEdit.Value.Basic

/-! The JSON values among all values. A value counts as JSON if every part of it does: tuples stand
    for arrays, and a mapping needs texts as keys. The copy goes as deep as the value; the limit on nested
    calls, which the reader has as `Json.maxDepth`, is left aside here. -/

namespace DeckEdit

/-- What keeps a value from being JSON: the first part, in the order in which the parts are written
    and a key before its value, that has no place in JSON. -/
inductive NotJson where
  | key (kind : Value.Kind)
  | part (kind : Value.Kind)
  deriving DecidableEq, Repr

namespace Value

mutual

/-- The JSON value that a value stands for, built anew. -/
def toJson : Value → Except NotJson Json
  | null => .ok .null
  | bool b => .ok (.bool b)
  | int i => .ok (.int i)
  | float f => .ok (.float f)
  | text t => .ok (.text t)
  | list items => (toJsonItems items).map .array
  | tuple items => (toJsonItems items).map .array
  | dict entries => (toJsonMembers entries).map .object
  | bytes _ => .error (.part .bytes)
  | unknown => .error (.part .unknown)

def toJsonItems : List Value → Except NotJson (List Json)
  | [] => .ok []
  | v :: rest => do return (← toJson v) :: (← toJsonItems rest)

def toJsonMembers : List (Key × Value) → Except NotJson (List (Text × Json))
  | [] => .ok []
  | (.text name, v) :: rest => do return (name, ← toJson v) :: (← toJsonMembers rest)
  | (k, _) :: _ => .error (.key k.toValue.kind)

end

mutual

def ofJson : Json → Value
  | .null => null
  | .bool b => bool b
  | .int i => int i
  | .float f => float f
  | .text t => text t
  | .array items => list (ofJsonItems items)
  | .object members => dict (ofJsonMembers members)

def ofJsonItems : List Json → List Value
  | [] => []
  | v :: rest => ofJson v :: ofJsonItems rest

def ofJsonMembers : List (Text × Json) → List (Key × Value)
  | [] => []
  | (name, v) :: rest => (.text name, ofJson v) :: ofJsonMembers rest

end

mutual

/-- Reading a JSON value back as JSON changes nothing. -/
theorem toJson_ofJson : ∀ v : Json, toJson (ofJson v) = .ok v
  | .null | .bool _ | .int _ | .float _ | .text _ => by simp [ofJson, toJson]
  | .array items => by simp [ofJson, toJson, toJsonItems_ofJsonItems items, Except.map]
  | .object members => by simp [ofJson, toJson, toJsonMembers_ofJsonMembers members, Except.map]

theorem toJsonItems_ofJsonItems : ∀ items : List Json,
    toJsonItems (ofJsonItems items) = .ok items
  | [] => rfl
  | v :: rest => by
    simp [ofJsonItems, toJsonItems, toJson_ofJson v, toJsonItems_ofJsonItems rest, bind, Except.bind,
      pure, Except.pure]

theorem toJsonMembers_ofJsonMembers : ∀ members : List (Text × Json),
    toJsonMembers (ofJsonMembers members) = .ok members
  | [] => rfl
  | (name, v) :: rest => by
    simp [ofJsonMembers, toJsonMembers, toJson_ofJson v, toJsonMembers_ofJsonMembers rest, bind,
      Except.bind, pure, Except.pure]

end

end Value
end DeckEdit
