import DeckEdit.CommandLine.Flag
import DeckEdit.Text.Digit

/-! Arguments, told apart by their form. An argument with a hyphen in front names an option, in full or by
    the beginning of a long name, and may bring its value along; everything else can be a value. -/

namespace DeckEdit
namespace CommandLine

/-- What an argument is. `value` may be the value of the option in front of it; `marker` is the two
    hyphens after which there are no options. -/
inductive Argument where
  | option (flag : Flag) (short : Bool) (value : Option Text)
  | unknownOption
  | value
  | marker
  deriving DecidableEq, Repr

/-- A negative number: a hyphen, and digits with at most one point among or before them. A line feed may
    end it. -/
def isNegativeNumber (t : Text) : Bool :=
  let digit (c : CodePoint) : Bool := c.digitValue?.isSome
  let digits (t : Text) : Bool := !t.isEmpty && t.all digit
  match t with
  | '-' :: number =>
    let number : Text :=
      if number.getLast? == some (CodePoint.ofChar '\n') then number.dropLast else number
    digits number ||
      match number.splitAt? (CodePoint.ofChar '.') with
      | some (whole, fraction) => whole.all digit && digits fraction
      | none => false
  | _ => false

/-- An argument that starts with a hyphen and names no option in any way. -/
def unnamed (t : Text) : Argument :=
  if isNegativeNumber t || t.contains (CodePoint.ofChar ' ') then .value else .unknownOption

def classify (t : Text) : Except UsageError Argument :=
  match t with
  | '-' :: second :: rest =>
    let isShort := second != CodePoint.ofChar '-'
    let assigned := t.splitAt? (CodePoint.ofChar '=')
    match Flag.named? t, assigned.bind fun (name, value) => (Flag.named? name).map (·, value) with
    | some flag, _ => .ok (.option flag isShort none)
    | none, some (flag, value) => .ok (.option flag isShort (some value))
    | none, none =>
      if isShort then
        match Flag.short? second with
        | some flag => .ok (.option flag true (some rest))
        | none => .ok (unnamed t)
      else
        let beginning := (assigned.map (·.1)).getD t
        match Flag.table.filter fun (name, _) => beginning.isPrefixOf name with
        | [] => .ok (unnamed t)
        | [(_, flag)] => .ok (.option flag false (assigned.map (·.2)))
        | matching => .error (.ambiguous t (matching.map (·.1)))
  | _ => .ok .value

def classifyAll : List Text → Except UsageError (List (Text × Argument))
  | [] => .ok []
  | t :: rest =>
    if t == Text.ofString "--" then .ok ((t, .marker) :: rest.map fun t => (t, .value))
    else
      match classify t with
      | .error e => .error e
      | .ok argument => (classifyAll rest).map fun arguments => (t, argument) :: arguments

end CommandLine
end DeckEdit
