import DeckEdit.Patch.Basic

/-! The form in which patches are kept and sent: a mapping with the contract's first names, in which
    what is left out has no key. -/

namespace DeckEdit

def Coordinate.toValue : Coordinate → Value
  | int i => .int i
  | float f => .float f

/-- An entry of a mapping, if there is a value for it. -/
def Value.entry? (name : Text) (v : Option Value) : Entries Value.Key Value :=
  v.toList.map fun v => (.text name, v)

def Change.toEntries : Change → Entries Value.Key Value
  | setText text => [(.text "text", .text text)]
  | setStyle style => [(.text "style", .dict (style.map fun (name, v) => (.text name, v)))]
  | move x y => Value.entry? "x" (x.map (·.toValue)) ++ Value.entry? "y" (y.map (·.toValue))

def Op.toValue (op : Op) : Value :=
  .dict ([(.text "objectId", .text op.objectId)] ++ Value.entry? "slideId" (op.slideId.map .text) ++
    Value.entry? "slideIndex" (op.slideIndex.map .int) ++
    [(.text "op", .text op.change.kind.tag)] ++ op.change.toEntries)

def Patch.toValue (patch : Patch) : Value :=
  .dict ([(.text "ops", .list (patch.ops.map Op.toValue))] ++
    Value.entry? "summary" (patch.summary.map .text))

end DeckEdit
