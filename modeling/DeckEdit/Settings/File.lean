import DeckEdit.Settings
import DeckEdit.Settings.Binding
import DeckEdit.Settings.Reference
import DeckEdit.Text.Lines

/-! What a file of variables sets. A value may refer to variables that were set before it in the file,
    and to those of the environment. -/

namespace DeckEdit
namespace Settings

/-- The text that a reference stands for. The file comes first; a name that it unsets stands for nothing,
    and one that is not there at all for its fallback. -/
def valueOf (sources : Sources) (reference : Reference) : Text :=
  match sources.file.get? reference.name with
  | some value => value.getD []
  | none => (sources.environment.get? reference.name).getD reference.fallback

def FileVariables.bind (environment : Variables) (file : FileVariables) (binding : Binding) :
    FileVariables :=
  file.set binding.name (binding.value.map (expand (valueOf { file, environment })))

/-- The variables that a file sets. A byte order mark in front counts nothing. -/
def ofFile (environment : Variables) (contents : Text) : FileVariables :=
  let t : Text :=
    match contents with
    | '\uFEFF' :: rest => rest
    | _ => contents
  (Binding.ofText t.normalizeLines).foldl (FileVariables.bind environment) []

end Settings
end DeckEdit
