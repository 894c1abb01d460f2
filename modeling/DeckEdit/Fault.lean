import DeckEdit.Value.Clone

/-! Misuse by the caller: arguments of a shape that the library cannot work with. What a model says
    never causes a fault; it is refused with issues. -/

namespace DeckEdit

inductive Fault where
  /-- A document or a style holds something that is not JSON. -/
  | notJson (cause : NotJson)
  /-- A document is JSON, but no mapping. -/
  | notMapping (kind : Value.Kind)
  /-- Slides were to be looked up in something that is no mapping. -/
  | noLookUp (kind : Value.Kind)
  /-- The allowed targets cannot be walked over. -/
  | notIterable (kind : Value.Kind)
  /-- One of the allowed targets cannot be in a set. -/
  | unhashable (kind : Value.Kind)
  /-- A target key is no text. -/
  | keyNotText (kind : Value.Kind)
  deriving DecidableEq, Repr

namespace NotJson

def message : NotJson → String
  | key kind => "document keys must be strings, got " ++ kind.name
  | part kind => "document is not JSON-serializable: " ++ kind.name

end NotJson

namespace Fault

def message : Fault → String
  | notJson cause => cause.message
  | notMapping kind => "document must be a mapping, got " ++ kind.name
  | noLookUp kind => "'" ++ kind.name ++ "' object has no attribute 'get'"
  | notIterable kind => "'" ++ kind.name ++ "' object is not iterable"
  | unhashable kind => "unhashable type: '" ++ kind.name ++ "'"
  | keyNotText .bytes => "a bytes-like object is required, not 'str'"
  | keyNotText kind => "'" ++ kind.name ++ "' object has no attribute 'partition'"

end Fault
end DeckEdit
