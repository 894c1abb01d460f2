import DeckEdit.Proofs.Number.Binary64
import DeckEdit.Patch.Basic
import Mathlib.Data.List.Forall2

/-! The values that spell a patch, field by field and without an order of checks. Which code points a
    text may have is left open. -/

namespace DeckEdit
namespace Contract

/-! ### Fields -/

/-- The value under the first of the names that the mapping has. -/
def field? (names : List Text) (entries : Entries Value.Key Value) : Option Value :=
  names.findSome? fun name => Entries.get? (.text name) entries

variable {α : Type}

/-- The field is there, and its value spells `a`. -/
def Given (spells : Value → α → Prop) (field : Option Value) (a : α) : Prop :=
  ∃ v, field = some v ∧ spells v a

/-- The field is left out, or it is there, not null, and its value spells something. -/
def Omissible (spells : Value → α → Prop) (field : Option Value) : Option α → Prop
  | none => field = none
  | some a => ∃ v, field = some v ∧ v ≠ .null ∧ spells v a

/-! ### Values -/

/-- A code point that is no lone surrogate. -/
def Scalar (c : CodePoint) : Prop :=
  c.isSurrogate = false

/-- A text of allowed code points, of a length within bounds. -/
def IsText (allowed : CodePoint → Prop) (least : Nat) (most : Option Nat) (v : Value) (t : Text) :
    Prop :=
  v = .text t ∧ (∀ c ∈ t, allowed c) ∧ least ≤ t.length ∧ ∀ limit ∈ most, t.length ≤ limit

/-- An integer from 1 to 20, as such or as the floating-point number that stands for it. -/
def IsSlideIndex (v : Value) (i : Int) : Prop :=
  (v = .int i ∨ ∃ f, v = .float f ∧ f.value? = some (i : ℚ)) ∧ 1 ≤ i ∧ i ≤ 20

/-- A finite floating-point number, or an integer that does not overflow as one. -/
inductive IsCoordinate : Value → Coordinate → Prop
  | int {i : Int} (fits : i.natAbs < 2 ^ 1024 - 2 ^ 970) : IsCoordinate (.int i) (.int i)
  | float {f : Binary64} {q : ℚ} (finite : f.value? = some q) : IsCoordinate (.float f) (.float f)

/-- A mapping in which all keys are texts. -/
def IsStyle (v : Value) (style : Entries Text Value) : Prop :=
  v = .dict (style.map fun (name, v) => (.text name, v))

/-! ### Operations and patches -/

section
variable (allowed : CodePoint → Prop)

/-- The entries of an operation spell the change; the word under `op` says which fields count. -/
inductive IsChange (entries : Entries Value.Key Value) : Change → Prop
  | setText {text : Text} (word : field? ["op"] entries = some (.text "set_text"))
      (given : Given (IsText allowed 1 (some 1500)) (field? ["text"] entries) text) :
      IsChange entries (.setText text)
  | setStyle {style : Entries Text Value} (word : field? ["op"] entries = some (.text "set_style"))
      (given : Given IsStyle (field? ["style"] entries) style) :
      IsChange entries (.setStyle style)
  | move {x y : Option Coordinate} (word : field? ["op"] entries = some (.text "move"))
      (hx : Omissible IsCoordinate (field? ["x"] entries) x)
      (hy : Omissible IsCoordinate (field? ["y"] entries) y) :
      IsChange entries (.move x y)

structure HasFields (entries : Entries Value.Key Value) (op : Op) : Prop where
  objectId : Given (IsText allowed 1 none) (field? ["objectId", "object_id"] entries) op.objectId
  slideId : Omissible (IsText allowed 1 none) (field? ["slideId", "slide_id"] entries) op.slideId
  slideIndex :
    Omissible IsSlideIndex (field? ["slideIndex", "slide_index"] entries) op.slideIndex
  change : IsChange allowed entries op.change

def IsOp (v : Value) (op : Op) : Prop :=
  ∃ entries, v = .dict entries ∧ HasFields allowed entries op

/-- A list or tuple of 1 to 50 items, each of which spells the operation in its place. -/
def AreOps (v : Value) (ops : List Op) : Prop :=
  ∃ items, (v = .list items ∨ v = .tuple items) ∧ 1 ≤ items.length ∧ items.length ≤ 50 ∧
    List.Forall₂ (IsOp allowed) items ops

def Spells (candidate : Value) (patch : Patch) : Prop :=
  ∃ entries, candidate = .dict entries ∧
    Given (AreOps allowed) (field? ["ops"] entries) patch.ops ∧
    Omissible (IsText allowed 0 (some 300)) (field? ["summary"] entries) patch.summary

end

end Contract
end DeckEdit
