import DeckEdit.Entries
import DeckEdit.Number.Binary64
import DeckEdit.Text.Basic

/-! Values of any shape, as a caller may hand them in where JSON is expected: beside the JSON values
    there are tuples, mappings with keys that are no texts, bytes, and bare objects. Objects with a truth
    value, items or keys of their own making are left aside. -/

namespace DeckEdit

inductive Value.Key where
  | null
  | bool (b : Bool)
  | int (i : Int)
  | float (f : Binary64)
  | text (t : Text)
  deriving Repr, Inhabited

inductive Value where
  | null
  | bool (b : Bool)
  | int (i : Int)
  | float (f : Binary64)
  | text (t : Text)
  | list (items : List Value)
  | tuple (items : List Value)
  | dict (entries : List (Value.Key × Value))
  | bytes (b : List UInt8)
  /-- A bare object: it is true and can be in a set, and it is no mapping, no sequence, no text and no number. -/
  | unknown
  deriving Repr, Inhabited

namespace Value

/-! ### Keys -/

namespace Key

/-- The number that a key stands for. An integral number is an integer whichever way it is
    written, and a truth value is zero or one. -/
def integer? : Key → Option Int
  | bool b => some (if b then 1 else 0)
  | int i => some i
  | float f => f.toInt?
  | _ => none

/-- Two keys name the same entry: equal texts, or equal numbers. -/
def same : Key → Key → Bool
  | null, null => true
  | text s, text t => s == t
  | a, b =>
    match a.integer?, b.integer? with
    | some m, some n => m == n
    | none, none =>
      match a, b with
      | float f, float g => f == g && f != .nan
      | _, _ => false
    | _, _ => false

instance : BEq Key := ⟨same⟩

def toValue : Key → Value
  | null => .null
  | bool b => .bool b
  | int i => .int i
  | float f => .float f
  | text t => .text t

end Key

/-! ### Kinds -/

inductive Kind where
  | null
  | bool
  | int
  | float
  | text
  | list
  | tuple
  | dict
  | bytes
  | unknown
  deriving DecidableEq, Repr

def Kind.name : Kind → String
  | null => "NoneType"
  | bool => "bool"
  | int => "int"
  | float => "float"
  | text => "str"
  | list => "list"
  | tuple => "tuple"
  | dict => "dict"
  | bytes => "bytes"
  | unknown => "object"

def kind : Value → Kind
  | null => .null
  | bool _ => .bool
  | int _ => .int
  | float _ => .float
  | text _ => .text
  | list _ => .list
  | tuple _ => .tuple
  | dict _ => .dict
  | bytes _ => .bytes
  | unknown => .unknown

/-- Truth: nothing, zero and whatever is empty are false. -/
def isTruthy : Value → Bool
  | null => false
  | bool b => b
  | int i => i != 0
  | float f => !f.isZero
  | text t => !t.isEmpty
  | list items => !items.isEmpty
  | tuple items => !items.isEmpty
  | dict entries => !entries.isEmpty
  | bytes b => !b.isEmpty
  | unknown => true

/-! ### Parts -/

def entries? : Value → Option (Entries Key Value)
  | dict entries => some entries
  | _ => none

def get? (name : Text) (v : Value) : Option Value :=
  v.entries?.bind (Entries.get? (.text name))

def text? : Value → Option Text
  | text t => some t
  | _ => none

/-- What a walk over a value meets: items, keys, code points or bytes. -/
def elements? : Value → Option (List Value)
  | list items => some items
  | tuple items => some items
  | dict entries => some (entries.map fun (k, _) => k.toValue)
  | text t => some (t.map fun c => .text [c])
  | bytes b => some (b.map fun n => .int n.toNat)
  | _ => none

mutual

/-- The kind of the first part that keeps a value out of a set: a list or mapping, which can change;
    a tuple is kept out by its items. -/
def unhashable? : Value → Option Kind
  | list _ => some .list
  | dict _ => some .dict
  | tuple items => firstUnhashable? items
  | _ => none

/-- The kind of the first unhashable part of several values. -/
def firstUnhashable? : List Value → Option Kind
  | [] => none
  | v :: rest => v.unhashable? <|> firstUnhashable? rest

end

end Value
end DeckEdit
