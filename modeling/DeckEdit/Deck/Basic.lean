import DeckEdit.Fault
import DeckEdit.Patch.Basic

/-! Decks: JSON objects with a list of slides, each of which has a list of elements. Nothing else is
    asked of them, so slides and elements of any other shape may stand in between; they are passed
    over. -/

namespace DeckEdit
namespace Deck

def slidesKey : Text := "slides"

def elementsKey : Text := "objects"

def idKey : Text := "id"

/-- The slides of a deck; none if there is no list of them. -/
def slides (deck : Json.Members) : List Json :=
  match deck.get? slidesKey with
  | some (.array slides) => slides
  | _ => []

/-- The deck with other slides; all else stays, in its place. -/
def withSlides (deck : Json.Members) (slides : List Json) : Json.Members :=
  deck.set slidesKey (.array slides)

/-- The elements of a slide; none if there is no list of them. -/
def elements (slide : Json.Members) : List Json :=
  match slide.get? elementsKey with
  | some (.array elements) => elements
  | _ => []

/-- The id of a slide or an element, if it is a text. -/
def id? (members : Json.Members) : Option Text :=
  match members.get? idKey with
  | some (.text id) => some id
  | _ => none

/-- The position and the members of the first object in a list that has the id. -/
def findId? (id : Text) : List Json → Option (Nat × Json.Members)
  | [] => none
  | .object members :: rest =>
    if id? members = some id then some (0, members)
    else (findId? id rest).map fun (position, found) => (position + 1, found)
  | _ :: rest => (findId? id rest).map fun (position, found) => (position + 1, found)

/-- The slide with that index, counted from one, if it is an object. -/
def slideAt? (slides : List Json) (index : Int) : Option (Nat × Json.Members) :=
  if 1 ≤ index then
    let position := index.toNat - 1
    (slides[position]?.bind Json.members?).map fun slide => (position, slide)
  else none

/-- The slide that an operation is on, with its position: the first one with the id, if there is one,
    and else the one with the index. -/
def findSlide? (slides : List Json) (op : Op) : Option (Nat × Json.Members) :=
  (op.slideId.filter (!·.isEmpty)).bind (findId? · slides) <|> op.slideIndex.bind (slideAt? slides)

/-- The element of a slide that an operation is on, with its position. -/
def findElement? (slide : Json.Members) (op : Op) : Option (Nat × Json.Members) :=
  findId? op.objectId (elements slide)

/-- The deck that a value is, built anew; one without a list of slides gets an empty one. -/
def ofValue (document : Value) : Except Fault Json.Members :=
  match document.toJson with
  | .error cause => .error (.notJson cause)
  | .ok (.object members) => .ok (withSlides members (slides members))
  | .ok _ => .error (.notMapping document.kind)

end Deck
end DeckEdit
