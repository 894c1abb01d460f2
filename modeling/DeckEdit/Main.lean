import DeckEdit.CommandLine.Run

/-! The program around the command: it fetches what the command reads, and does what its report says. -/

namespace DeckEdit
namespace CommandLine

/-- What the system has behind the first names of a path. -/
def spot (path : Path) (names : List Text) : IO Spot := do
  let place := (← IO.currentDir) / { path with names }.text.toString
  if ← place.isDir then return .directory
  if !(← place.pathExists) then return .nothing
  -- A file on the way is in the way, whatever it holds.
  if names != path.names then return .file []
  return .file (← IO.FS.readBinFile place).toList

def lookUp (path : Path) : IO Entry := do
  let firstNames := (List.range (path.names.length + 1)).map path.names.take
  let spots ← firstNames.mapM fun names => do return (names, ← spot path names)
  return path.entry fun names => ((spots.find? (·.1 == names)).map (·.2)).getD .nothing

/-- The variables of the environment, as the system lists them for this process. -/
def environment : IO Settings.Variables := do
  let listed ← try IO.FS.readBinFile "/proc/self/environ" catch _ => pure ByteArray.empty
  let parts := Text.splitOn (CodePoint.ofNat 0) (listed.toList.map fun b => CodePoint.ofNat b.toNat)
  return parts.filterMap fun part =>
    Text.splitAt? '=' (Utf8.systemText (part.map fun c => UInt8.ofNat c.val))

def world (arguments : List Text) : IO World := do
  let paths :=
    match Options.ofArguments arguments with
    | .ok options => settingsPath :: options.paths
    | .error _ => [settingsPath]
  let entries ← paths.mapM fun path => do return (path, ← lookUp path)
  let entry (path : Path) : Entry := ((entries.find? (·.1 == path)).map (·.2)).getD .missing
  return { environment := ← environment, entry }

/-- Does what a report says; the answer is the exit code. -/
def perform (report : Report) : IO UInt32 := do
  for (path, contents) in report.writes do
    IO.FS.writeBinFile path.text.toString (ByteArray.mk contents.toArray)
  for panel in report.panels do
    IO.print panel.plain.toString
  IO.print report.output.toString
  IO.eprint report.errors.toString
  match report.ending with
  | .success => return 0
  | .failure => return 1
  | .help =>
    IO.print helpText.toString
    return 0
  | .usage e =>
    IO.eprint (usageLine e).toString
    return 2
  | .mishap m =>
    IO.eprintln m.message.toString
    return 1

end CommandLine
end DeckEdit

open DeckEdit in
/-- Runs the command on the arguments of the program. -/
def main (arguments : List String) : IO UInt32 := do
  let arguments := arguments.map Text.ofString
  DeckEdit.CommandLine.perform (CommandLine.run (← CommandLine.world arguments) arguments)
