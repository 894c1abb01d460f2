import DeckEdit.Number.Numeral
import DeckEdit.Value.Basic

/-! Element locks. Lock data has been stored in four encodings, all of which stay valid; data in any
    other shape locks nothing. An element is looked up under two slide keys, the slide's id and its
    index, and is locked if any encoding marks it under either. -/

namespace DeckEdit
namespace Lock

/-- The shapes lock data is stored in. `tokenList` is a sequence of `slide:element` tokens, `nested`
    maps slides to maps from elements to flags, `dotted` maps `slide.element` to flags, and `wrapped`
    is a nested map under a key of its own. -/
inductive Encoding where
  | tokenList
  | nested
  | dotted
  | wrapped
  deriving DecidableEq, Repr

namespace Encoding

def name : Encoding → String
  | tokenList => "token_list"
  | nested => "nested"
  | dotted => "dotted"
  | wrapped => "wrapped"

/-- The encodings in the order in which they are tried. -/
def all : List Encoding :=
  [tokenList, nested, dotted, wrapped]

end Encoding

/-- The key of the map that a wrapped encoding holds. -/
def containerKey : Text := "bySlide"

/-- The token of an element, from a key of its slide and its own id. -/
def token (slideKey objectId : Text) : Text :=
  slideKey ++ ":" ++ objectId

def dottedKey (slideKey objectId : Text) : Text :=
  slideKey ++ "." ++ objectId

/-- The keys under which the elements of a slide may be locked: its id, unless that is empty, and its
    index in decimal. The index is taken to have a text. -/
def slideKeys (slideId : Option Text) (slideIndex : Option Int) : List Text :=
  (slideId.filter (!·.isEmpty)).toList ++ (slideIndex.map Text.ofInt).toList

/-- The slide index that a value gives: only a plain integer is one. -/
def slideIndex? : Value → Option Int
  | .int i => some i
  | _ => none

/-- A map from slides to maps of flags has a true flag for the element. -/
def flagged (root : Value) (objectId slideKey : Text) : Bool :=
  match (root.get? slideKey).bind (Value.get? objectId) with
  | some flag => flag.isTruthy
  | none => false

/-- A sequence holds the token of the element; entries that are no texts count for nothing. -/
def listed (locks : Value) (objectId slideKey : Text) : Bool :=
  let holds (items : List Value) :=
    (items.filterMap Value.text?).contains (token slideKey objectId)
  match locks with
  | .list items => holds items
  | .tuple items => holds items
  | _ => false

/-- The data, read in one encoding, marks the element under that slide key. -/
def marks (locks : Value) (objectId slideKey : Text) : Encoding → Bool
  | .tokenList => listed locks objectId slideKey
  | .nested => flagged locks objectId slideKey
  | .dotted => ((locks.get? (dottedKey slideKey objectId)).map Value.isTruthy).getD false
  | .wrapped => ((locks.get? containerKey).map (flagged · objectId slideKey)).getD false

/-- The first encoding that marks the element under one of its slide keys. An empty id is no
    element's. -/
def matching? (locks : Value) (objectId : Text) (slideId : Option Text) (slideIndex : Option Int) :
    Option Encoding :=
  if objectId.isEmpty then none
  else Encoding.all.find? fun encoding =>
    (slideKeys slideId slideIndex).any fun slideKey => marks locks objectId slideKey encoding

/-- The element is locked. Operations that have been checked and targets that have been read give an index
    that has a text; other callers use `check`. -/
def isLocked (locks : Value) (objectId : Text) (slideId : Option Text) (slideIndex : Option Int) :
    Bool :=
  (matching? locks objectId slideId slideIndex).isSome

/-- What is found under any index. If there is something to be looked up, the index is written out before, and
    one that is too long is an error. -/
def lookUp (locks : Value) (objectId : Text) (slideId : Option Text) (slideIndex : Option Int) :
    Except Numeral.TooLong (Option Encoding) :=
  match locks with
  | .null => .ok none
  | _ =>
    if objectId.isEmpty then .ok none
    else
      match slideIndex.map Numeral.write with
      | some (.error tooLong) => .error tooLong
      | _ => .ok (matching? locks objectId slideId slideIndex)

def check (locks : Value) (objectId : Text) (slideId : Option Text) (slideIndex : Option Int) :
    Except Numeral.TooLong Bool :=
  (lookUp locks objectId slideId slideIndex).map Option.isSome

/-- The encoding that the shape of lock data suggests, without looking at flags. -/
def detect? (locks : Value) : Option Encoding :=
  match locks with
  | .list _ => some .tokenList
  | .tuple _ => some .tokenList
  | .dict entries =>
    if ((locks.get? containerKey).bind Value.entries?).isSome then some .wrapped
    else if entries.any fun (_, v) => v.entries?.isSome then some .nested
    else if entries.any fun (k, _) =>
        match k with
        | .text t => t.contains (CodePoint.ofChar '.')
        | _ => false
      then some .dotted
    else none
  | _ => none

end Lock
end DeckEdit
