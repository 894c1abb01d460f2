import DeckEdit.Issue
import DeckEdit.Value.Shown

/-! The contract between models and decks. A candidate is accepted as a whole or refused with an issue
    for every violated rule; nothing is accepted in part, and keys that the contract does not name
    are not looked at. -/

namespace DeckEdit
namespace Contract

/-- The outcome of a check: a value, or the issues that stand against it. -/
abbrev Checked (α : Type) := Except (List Issue) α

namespace Checked
variable {α β γ : Type}

/-- Both outcomes, or the issues of both. -/
def both (a : Checked α) (b : Checked β) : Checked (α × β) :=
  match a, b with
  | .ok a, .ok b => .ok (a, b)
  | .ok _, .error later => .error later
  | .error issues, .ok _ => .error issues
  | .error issues, .error later => .error (issues ++ later)

/-- All outcomes in order, or the issues of all. -/
def all : List (Checked α) → Checked (List α)
  | [] => .ok []
  | a :: rest => (both a (all rest)).map fun (a, rest) => a :: rest

def refuse (place : List Segment) (violation : Violation) : Checked α :=
  .error [⟨place, violation⟩]

end Checked

open Checked

/-! ### Values -/

/-- A text without lone surrogates, of a length within bounds. -/
def checkText (atLeastOne : Bool) (limit : Option Nat) (place : List Segment) (v : Value) :
    Checked Text :=
  match v with
  | .text t =>
    if t.any CodePoint.isSurrogate then refuse place .surrogateInText
    else if atLeastOne && t.isEmpty then refuse place .emptyText
    else
      match limit with
      | some limit =>
        if limit < t.length then refuse place (.textTooLong limit) else .ok t
      | none => .ok t
  | _ => refuse place .notText

/-- The integer that a slide index is given as; an integral floating-point number gives one too. -/
def asInteger? : Value → Option Int
  | .int i => some i
  | .float f => f.toInt?
  | _ => none

/-- A slide index: an integer from one to the greatest index. -/
def checkSlideIndex (place : List Segment) (v : Value) : Checked Int :=
  match asInteger? v with
  | none => refuse place .notInteger
  | some i =>
    if Patch.maxSlideIndex < i then refuse place (.aboveLimit Patch.maxSlideIndex)
    else if i < 1 then refuse place (.belowLimit 1)
    else .ok i

/-- A coordinate: a number that is finite as a floating-point number. -/
def checkCoordinate (place : List Segment) (v : Value) : Checked Coordinate :=
  match v with
  | .int i => if (Binary64.ofInt i).isFinite then .ok (.int i) else refuse place .notFinite
  | .float f => if f.isFinite then .ok (.float f) else refuse place .notFinite
  | _ =>
    .error [⟨place ++ [.name "int"], .notInteger⟩, ⟨place ++ [.name "float"], .notNumber⟩]

/-- A key that is no text, as a segment: a truth value is the number it stands for. -/
def keySegment (k : Value.Key) : Text :=
  match k with
  | .bool b => if b then "1" else "0"
  | k => k.quoted

/-- A style: a mapping with texts as keys and any values. -/
def checkStyle (place : List Segment) (v : Value) : Checked (Entries Text Value) :=
  match v with
  | .dict entries =>
    all (entries.map fun (k, v) =>
      match k with
      | .text name => .ok (name, v)
      | k => refuse (place ++ [.name (keySegment k), .name "[key]"]) .notText)
  | _ => refuse place .styleNotMapping

/-! ### Fields -/

/-- The first of the names under which the mapping has a value, with the value. -/
def findField? (names : List Text) (entries : Entries Value.Key Value) : Option (Text × Value) :=
  names.findSome? fun name => (Entries.get? (.text name) entries).map fun v => (name, v)

/-- A field that must be there. A missing one is reported under the first of its names. -/
def required {α : Type} (entries : Entries Value.Key Value) (place : List Segment) (name : Text)
    (otherNames : List Text) (check : List Segment → Value → Checked α) : Checked α :=
  match findField? (name :: otherNames) entries with
  | none => refuse (place ++ [.name name]) .missing
  | some (name, v) => check (place ++ [.name name]) v

/-- A field that may be left out, but not given as null. -/
def optional {α : Type} (entries : Entries Value.Key Value) (place : List Segment) (name : Text)
    (otherNames : List Text) (check : List Segment → Value → Checked α) : Checked (Option α) :=
  match findField? (name :: otherNames) entries with
  | none => .ok none
  | some (name, .null) => refuse (place ++ [.name name]) .explicitNull
  | some (name, v) => (check (place ++ [.name name]) v).map some

/-! ### Operations -/

def checkChange (entries : Entries Value.Key Value) (place : List Segment) :
    ChangeKind → Checked Change
  | .setText =>
    (required entries place "text" [] (checkText true (some Patch.maxTextLength))).map .setText
  | .setStyle => (required entries place "style" [] checkStyle).map .setStyle
  | .move =>
    (both (optional entries place "x" [] checkCoordinate)
      (optional entries place "y" [] checkCoordinate)).map fun (x, y) => .move x y

def checkFields (entries : Entries Value.Key Value) (place : List Segment) (kind : ChangeKind) :
    Checked Op :=
  let objectId := required entries place "objectId" ["object_id"] (checkText true none)
  let slideId := optional entries place "slideId" ["slide_id"] (checkText true none)
  let slideIndex := optional entries place "slideIndex" ["slide_index"] checkSlideIndex
  let change := checkChange entries place kind
  (both objectId (both slideId (both slideIndex change))).map
    fun (objectId, slideId, slideIndex, change) => ⟨objectId, slideId, slideIndex, change⟩

/-- One operation of a patch. Its kind says which fields it has, and is part of the way to them. -/
def checkOp (place : List Segment) (v : Value) : Checked Op :=
  match v with
  | .dict entries =>
    match Entries.get? (.text "op") entries with
    | none => refuse place .kindMissing
    | some word =>
      match word.text?.bind ChangeKind.ofTag? with
      | none => refuse place (.kindUnknown word.shown.withoutSurrogates)
      | some kind => checkFields entries (place ++ [.name (Text.ofString kind.tag)]) kind
  | _ => refuse place .opNotMapping

def checkOps (place : List Segment) (v : Value) : Checked (List Op) :=
  let check (items : List Value) : Checked (List Op) :=
    if items.isEmpty then refuse place .noOps
    else if Patch.maxOps < items.length then refuse place (.tooManyOps items.length)
    else all (items.mapIdx fun i v => checkOp (place ++ [.index i]) v)
  match v with
  | .list items => check items
  | .tuple items => check items
  | _ => refuse place .notList

end Contract

/-- The patch that a candidate is, or all that keeps it from being one. -/
def Patch.ofValue (candidate : Value) : Except (List Issue) Patch :=
  match candidate with
  | .dict entries =>
    (Contract.Checked.both (Contract.required entries [] "ops" [] Contract.checkOps)
      (Contract.optional entries [] "summary" []
        (Contract.checkText false (some Patch.maxSummaryLength)))).map
      fun (ops, summary) => ⟨ops, summary⟩
  | _ => Contract.Checked.refuse [] .notMapping

end DeckEdit
