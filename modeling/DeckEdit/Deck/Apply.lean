import DeckEdit.Deck.Basic

/-! Applying operations to a deck, one after the other. Each is applied, or skipped because its
    element is locked, or skipped because there is no such slide or element; a lock is looked up
    before the element is. What becomes of an operation is counted and listed as it happens. -/

namespace DeckEdit

def Coordinate.toJson : Coordinate → Json
  | int i => .int i
  | float f => .float f

/-- Writes the keys of a style one after the other; its values must be JSON. -/
def Change.writeStyle (element : Json.Members) :
    List (Text × Value) → Except NotJson Json.Members
  | [] => .ok element
  | (key, v) :: rest =>
    match v.toJson with
    | .ok v => writeStyle (element.set key v) rest
    | .error cause => .error cause

def Change.apply (change : Change) (element : Json.Members) : Except NotJson Json.Members :=
  match change with
  | setText text => .ok (element.set "text" (.text text))
  | setStyle style => writeStyle element style
  | move x y =>
    let write (name : Text) (coordinate : Option Coordinate) (element : Json.Members) :=
      match coordinate with
      | some c => element.set name c.toJson
      | none => element
    .ok (write "y" y (write "x" x element))

namespace Deck

/-- What may become of an operation. -/
inductive Outcome where
  | applied
  | locked
  | missing
  deriving DecidableEq, Repr

/-- The slides with one element replaced, by its slide's position and its own. -/
def replaceElement (slides : List Json) (slidePosition : Nat) (slide : Json.Members)
    (position : Nat) (element : Json.Members) : List Json :=
  let elements := (elements slide).set position (.object element)
  slides.set slidePosition (.object (slide.set elementsKey (.array elements)))

/-- The element on that slide is locked against the operation, under the slide's id or the index that
    the operation gives. -/
def isLocked (locks : Value) (slide : Json.Members) (op : Op) : Bool :=
  Lock.isLocked locks op.objectId (id? slide) op.slideIndex

/-- A deck after a batch of operations, or after the first ones of it. The operations that were applied and
    those that were skipped, because of a lock or because there is no such slide or element, are counted and
    listed, each with its place in the batch. -/
structure Result where
  deck : Json.Members
  applied : Nat
  skippedLocked : Nat
  skippedMissing : Nat
  appliedOps : List (Nat × Op)
  lockedOps : List (Nat × Op)
  missingOps : List (Nat × Op)

namespace Result

/-- Before the first operation. -/
def start (deck : Json.Members) : Result :=
  ⟨deck, 0, 0, 0, [], [], []⟩

/-- The list of the operations with that outcome. -/
def listed (result : Result) : Outcome → List (Nat × Op)
  | .applied => result.appliedOps
  | .locked => result.lockedOps
  | .missing => result.missingOps

def opsWith (result : Result) (outcome : Outcome) : List Op :=
  (result.listed outcome).map (·.2)

/-- The places of the operations with that outcome, counted from zero. -/
def positions (result : Result) (outcome : Outcome) : List Nat :=
  (result.listed outcome).map (·.1)

def total (result : Result) : Nat :=
  result.applied + result.skippedLocked + result.skippedMissing

end Result

/-- What the operation at a place in the batch adds to the result of those before it. -/
def turn (locks : Value) (result : Result) (place : Nat) (op : Op) : Except NotJson Result :=
  let slides := slides result.deck
  match findSlide? slides op with
  | none => .ok { result with
      skippedMissing := result.skippedMissing + 1
      missingOps := result.missingOps ++ [(place, op)] }
  | some (slidePosition, slide) =>
    if isLocked locks slide op then .ok { result with
      skippedLocked := result.skippedLocked + 1
      lockedOps := result.lockedOps ++ [(place, op)] }
    else
      match findElement? slide op with
      | none => .ok { result with
          skippedMissing := result.skippedMissing + 1
          missingOps := result.missingOps ++ [(place, op)] }
      | some (position, element) =>
        match op.change.apply element with
        | .error cause => .error cause
        | .ok element => .ok { result with
            deck := withSlides result.deck
              (replaceElement slides slidePosition slide position element)
            applied := result.applied + 1
            appliedOps := result.appliedOps ++ [(place, op)] }

/-- The operations of a batch from a place on, one turn after the other. -/
def turns (locks : Value) : Result → Nat → List Op → Except NotJson Result
  | result, _, [] => .ok result
  | result, place, op :: rest =>
    match turn locks result place op with
    | .error cause => .error cause
    | .ok result => turns locks result (place + 1) rest

/-- Applies operations to the deck that a document is. The document stays as it is. -/
def apply (document locks : Value) (ops : List Op) : Except Fault Result :=
  match ofValue document with
  | .error fault => .error fault
  | .ok deck => (turns locks (Result.start deck) 0 ops).mapError .notJson

end Deck
end DeckEdit
