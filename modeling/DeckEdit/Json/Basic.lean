import DeckEdit.Entries
import DeckEdit.Number.Binary64
import DeckEdit.Text.Basic

/-! JSON values. Integers and floating-point numbers are kept apart, and the members of an object
    keep their order. -/

namespace DeckEdit

inductive Json where
  | null
  | bool (b : Bool)
  | int (i : Int)
  | float (f : Binary64)
  | text (t : Text)
  | array (items : List Json)
  | object (members : List (Text × Json))
  deriving Repr, Inhabited

namespace Json

abbrev Members := Entries Text Json

def members? : Json → Option Members
  | object members => some members
  | _ => none

end Json
end DeckEdit
