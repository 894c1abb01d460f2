import DeckEdit.Lock
import DeckEdit.Value.Basic

/-! Edit patches: what a model may do to a deck. A patch is a batch of operations, each of which
    names one element of one slide and says what becomes of it. -/

namespace DeckEdit

/-- A coordinate, as an integer or as a floating-point number. -/
inductive Coordinate where
  | int (i : Int)
  | float (f : Binary64)
  deriving DecidableEq, Repr

/-- What an operation does to its element: it replaces the text, writes style keys over the ones that
    are there, or moves the element along one axis or both. -/
inductive Change where
  | setText (text : Text)
  | setStyle (style : Entries Text Value)
  | move (x y : Option Coordinate)
  deriving Repr

inductive ChangeKind where
  | setText
  | setStyle
  | move
  deriving DecidableEq, Repr

def Change.kind : Change → ChangeKind
  | setText _ => .setText
  | setStyle _ => .setStyle
  | move _ _ => .move

namespace ChangeKind

/-- The word that stands for the kind in a patch. -/
def tag : ChangeKind → String
  | setText => "set_text"
  | setStyle => "set_style"
  | move => "move"

def all : List ChangeKind :=
  [setText, setStyle, move]

def ofTag? (word : Text) : Option ChangeKind :=
  all.find? fun kind => Text.ofString kind.tag == word

end ChangeKind

/-- An operation: an element, the slide it is on, by id, by index or both, and the change. -/
structure Op where
  objectId : Text
  slideId : Option Text
  slideIndex : Option Int
  change : Change
  deriving Repr

/-- A batch of operations, with the model's own words about it. -/
structure Patch where
  ops : List Op
  summary : Option Text
  deriving Repr

namespace Op

/-- How a slide that is not named is spelled in a target key. -/
def unnamedSlide : Text := "None"

/-- The target of an operation as allow-lists spell it, by the slide's index alone. -/
def targetKey (op : Op) : Text :=
  Lock.token ((op.slideIndex.map Text.ofInt).getD unnamedSlide) op.objectId

/-- The token under which a blocked operation is reported: by the slide's index if the operation
    gives one, and by its id if not. -/
def reportToken (op : Op) : Text :=
  Lock.token (((op.slideIndex.map Text.ofInt) <|> op.slideId).getD unnamedSlide) op.objectId

end Op

namespace Patch

/-! ### Limits -/

def maxOps : Nat := 50

def maxTextLength : Nat := 1500

def maxSummaryLength : Nat := 300

def maxSlideIndex : Nat := 20

end Patch
end DeckEdit
