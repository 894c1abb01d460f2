import DeckEdit.Fault
import DeckEdit.Lock
import DeckEdit.Number.Numeral
import DeckEdit.Patch.Basic

/-! What the user asked to be edited: single elements, by keys of the form `index:element`, or all of
    one slide. Operations on anything else are dropped. -/

namespace DeckEdit
namespace Target

/-- The index and the element of a key: what stands before the first colon is a numeral from one on,
    and something stands after it. -/
def parse? (key : Text) : Option (Int × Text) :=
  match key.splitAt? (CodePoint.ofChar ':') with
  | none => none
  | some (numeral, objectId) =>
    if objectId.isEmpty then none
    else
      match Numeral.integer? numeral with
      | some index => if index < 1 then none else some (index, objectId)
      | none => none

/-- The parts of a key as a caller hands it in. -/
def parseValue (key : Value) : Except Fault (Option (Int × Text)) :=
  match key with
  | .text t => .ok (parse? t)
  | v => .error (.keyNotText v.kind)

/-- The slide that a caller asks for. Null asks for none; what equals no integer is the index of no
    slide, like zero. -/
def slideChoice (v : Value) : Option Int :=
  match v with
  | .null => none
  | .bool b => some (if b then 1 else 0)
  | .int i => some i
  | .float f => some (f.toInt?.getD 0)
  | _ => some 0

/-- The restrictions on what may be edited. No keys and no slide leave all free. -/
structure Policy where
  allowed : List Value
  slideIndex : Option Int

namespace Policy

/-- The policy of a caller: a sequence, a mapping or a text of keys, or something false. -/
def ofValue (allowed : Value) (slideIndex : Option Int) : Except Fault Policy :=
  if !allowed.isTruthy then .ok ⟨[], slideIndex⟩
  else
    match allowed.elements? with
    | none => .error (.notIterable allowed.kind)
    | some keys =>
      match Value.firstUnhashable? keys with
      | some kind => .error (.unhashable kind)
      | none => .ok ⟨keys, slideIndex⟩

/-- The operation is not on the one slide that may be edited, going by the index that it gives. -/
def otherSlide (policy : Policy) (op : Op) : Bool :=
  policy.slideIndex.isSome && op.slideIndex != policy.slideIndex

/-- The operation is on none of the elements that may be edited, going by its target key. -/
def otherTarget (policy : Policy) (op : Op) : Bool :=
  !policy.allowed.isEmpty && !(policy.allowed.filterMap Value.text?).contains op.targetKey

/-- The operation stays within the policy. -/
def admits (policy : Policy) (op : Op) : Bool :=
  !policy.otherSlide op && !policy.otherTarget op

/-- The operations that a policy has let through so far, and how many it has dropped. -/
structure Passed where
  ops : List Op
  skipped : Nat

/-- Lets operations through one by one, or drops them. -/
def sift (policy : Policy) : Passed → List Op → Passed
  | passed, [] => passed
  | passed, op :: rest =>
    if policy.otherSlide op then
      sift policy { passed with skipped := passed.skipped + 1 } rest
    else if policy.otherTarget op then
      sift policy { passed with skipped := passed.skipped + 1 } rest
    else sift policy { passed with ops := passed.ops ++ [op] } rest

/-- What comes of a batch under a policy. Only an operation that gives its slide's index can pass, if there
    is a restriction. -/
def filter (policy : Policy) (ops : List Op) : Passed :=
  policy.sift ⟨[], 0⟩ ops

def keep (policy : Policy) (ops : List Op) : List Op :=
  (policy.filter ops).ops

end Policy

/-! ### Locked targets -/

/-- The id of the slide with that index, if the document has such a slide and the id is a text. -/
def slideId? (document : Value) (index : Int) : Option Text :=
  match document.get? "slides" with
  | some (.list slides) =>
    if 1 ≤ index then
      (slides[index.toNat - 1]?).bind fun slide => (slide.get? "id").bind Value.text?
    else none
  | _ => none

/-- The slides of a document that have a text as id, with their indexes. -/
def slideIds (document : Value) : Except Fault (List (Nat × Text)) :=
  match document with
  | .dict _ =>
    match document.get? "slides" with
    | some (.list slides) =>
      .ok ((slides.zipIdx 1).filterMap fun (slide, index) =>
        ((slide.get? "id").bind Value.text?).map fun id => (index, id))
    | _ => .ok []
  | v => .error (.noLookUp v.kind)

/-- The slide that a target key names, under its index and the id that goes with it, is locked for
    the element that the key names. -/
def isLocked (locks : Value) (idOf : Int → Option Text) (key : Text) : Bool :=
  match parse? key with
  | some (index, objectId) => Lock.isLocked locks objectId (idOf index) (some index)
  | none => false

/-- The target keys that are locked, in their order. Malformed keys are passed over. -/
def locked (locks : Value) (idOf : Int → Option Text) :
    List Value → Except Fault (List Text)
  | [] => .ok []
  | .text key :: rest =>
    (locked locks idOf rest).map fun found => if isLocked locks idOf key then key :: found else found
  | v :: _ => .error (.keyNotText v.kind)

/-- The locked ones among target keys, and the slide ids of the document that they were looked up
    with. -/
def lockedIn (document locks : Value) (targets : List Value) :
    Except Fault (List (Nat × Text) × List Text) :=
  match slideIds document with
  | .error fault => .error fault
  | .ok ids => (locked locks (slideId? document) targets).map fun keys => (ids, keys)

end Target
end DeckEdit
