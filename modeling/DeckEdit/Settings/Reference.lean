import DeckEdit.Text.Basic

/-! References in a text: a name between braces after a dollar sign, with or without a text to stand in
    for a variable that is not there. A dollar sign in front of anything else is text. -/

namespace DeckEdit
namespace Settings

structure Reference where
  name : Text
  /-- What stands in for the variable if there is none of that name. -/
  fallback : Text
  /-- The length of the reference in its text. -/
  length : Nat

def Reference.read? (t : Text) : Option Reference :=
  match t with
  | '$' :: '\x7b' :: inside =>
    let (name, rest) := inside.span fun (c : CodePoint) => c != '\x7d' && c != ':'
    match rest with
    | '\x7d' :: _ => some { name, fallback := [], length := name.length + 3 }
    | ':' :: '-' :: rest =>
      match Text.splitAt? '\x7d' rest with
      | some (fallback, _) =>
        some { name, fallback, length := name.length + fallback.length + 5 }
      | none => none
    | _ => none
  | _ => none

/-- The text with the value of its variable in place of each reference; `skip` code points more belong
    to the one before. -/
def expandFrom (value : Reference → Text) (skip : Nat) : Text → Text
  | [] => []
  | c :: rest =>
    match skip with
    | skip + 1 => expandFrom value skip rest
    | 0 =>
      match Reference.read? (c :: rest) with
      | some reference => value reference ++ expandFrom value (reference.length - 1) rest
      | none => c :: expandFrom value 0 rest

/-- The text with the value of its variable in place of each reference. -/
def expand (value : Reference → Text) (t : Text) : Text :=
  expandFrom value 0 t

end Settings
end DeckEdit
