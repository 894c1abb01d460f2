import DeckEdit.CommandLine.Input
import DeckEdit.Settings.File
import DeckEdit.Text.Uppercase

/-! The command: it reads a reply, a deck and locks from files, edits the deck, and writes it to a file
    or prints it. All that it reads of the world is handed in, and all that it does to the world is in
    its report. What is printed or shown in a panel is taken to get out: an output that has no form for a
    text, and a text that a panel takes for markup and cannot read, are left aside. -/

namespace DeckEdit
namespace CommandLine

/-! ### Editing and writing -/

/-- A target to be allowed. An empty one is no key. -/
def allowedKey : Option Text → Value
  | some key => .text key
  | none => .list []

def edit (settings : Settings) (options : Options) (input : Input) :
    Except Trouble Edit.Report :=
  let request : Edit.Request :=
    { reply := some input.reply
      document := Value.ofJson (.object input.document)
      locks := Value.ofJson input.locks
      allowed := .list (options.allow.map allowedKey)
      slideIndex := options.slideIndex }
  match Edit.run settings request with
  | .error fault =>
    .error (.failure ("Document is not JSON-shaped: " ++ Text.ofString fault.message))
  | .ok (.refused reason) => .error (.failure reason.message)
  | .ok (.done report) => .ok report

/-- The width from which on an indentation is no machine word. -/
def wordWidth : Int := 0x8000000000000000

/-- The width from which on an indentation does not fit into memory. -/
def hugeWidth : Int := 0x400000000

def layout (settings : Settings) (options : Options) : Except Mishap Json.Layout :=
  let width := settings.outputIndent
  if !options.pretty then .ok .oneLine
  else if width < -wordWidth ∨ wordWidth ≤ width then .error .widthOutOfRange
  else if hugeWidth ≤ width then .error .outOfMemory
  else .ok (.indented width)

def writeProblem? (world : World) (path : Path) : Option Mishap :=
  match path.flaw?, world.entry path with
  | some flaw, _ => some (.badPath flaw)
  | none, .file _ => none
  | none, .vacant => none
  | none, .directory => some (.isDirectory path)
  | none, .missing => some (.noSuchFile path)
  | none, .underFile => some (.notDirectory path)
  | none, .tooLong => some (.nameTooLong path)

/-- The lines that say where the deck has been written and what became of the operations. -/
def savedLines (path : Path) (report : Edit.Report) : Text :=
  "Result saved in: " ++ path.text ++ "\n" ++
    "Applied: " ++ Text.ofNat report.result.applied ++
    ", skipped (locked): " ++ Text.ofNat report.result.skippedLocked ++
    ", skipped (missing): " ++ Text.ofNat report.result.skippedMissing ++ "\n"

/-- Hands over the deck: to a file, in a panel, or on the output. Opening a file empties it, before it is
    known whether the text can be written. Only files are taken to fail. -/
def deliver (world : World) (layout : Json.Layout) (options : Options) (panels : List Panel)
    (report : Edit.Report) : Report :=
  let t := Json.print layout (.object report.result.deck)
  let panels := if options.showsPanels then panels ++ [.result report] else panels
  match options.output with
  | none =>
    if options.showsPanels then
      { Report.ended .success with panels := panels ++ [.deck report.result.deck] }
    else { Report.ended .success with panels, output := t ++ "\n" }
  | some path =>
    match writeProblem? world path with
    | some m => { Report.ended (.mishap m) with panels }
    | none =>
      match Utf8.encode t with
      | .error e => { Report.ended (.mishap (.unencodable e)) with panels, writes := [(path, [])] }
      | .ok bytes =>
        let written := { Report.ended .success with panels, writes := [(path, bytes)] }
        if options.quiet then written
        else if options.report then
          { written with panels := panels ++ [.saved ("Result saved in: " ++ path.text)] }
        else { written with output := savedLines path report }

/-- Stops after the panels that have been shown. A failure is shown in a panel if there are panels, and
    printed if not. -/
def stop (options : Options) (panels : List Panel) : Trouble → Report
  | .mishap m => { Report.ended (.mishap m) with panels }
  | .failure message =>
    if options.showsPanels then
      { Report.ended .failure with panels := panels ++ [.error message] }
    else { Report.ended .failure with panels, errors := "Error: " ++ message ++ "\n" }

/-- Whether lock data has been given; null is none. -/
def hasLocks : Json → Bool
  | .null => false
  | _ => true

def startPanels (options : Options) (input : Input) : List Panel :=
  if options.showsPanels then
    [.start (Deck.slides input.document).length input.reply.length (hasLocks input.locks)]
  else []

def carryOut (world : World) (settings : Settings) (options : Options) : Report :=
  match readInput world options with
  | .error trouble => stop options [] trouble
  | .ok input =>
    let panels := startPanels options input
    match edit settings options input with
    | .error trouble => stop options panels trouble
    | .ok report =>
      match layout settings options with
      | .error m => stop options panels (.mishap m)
      | .ok layout => deliver world layout options panels report

/-! ### The command -/

def levels : List Text :=
  ["CRITICAL", "FATAL", "ERROR", "WARN", "WARNING", "INFO", "DEBUG", "NOTSET"]

def settingsPath : Path := Path.ofText ".env"

def loadSettings (world : World) : Except Mishap Settings :=
  let environment := world.environment
  let load (file : Settings.FileVariables) :=
    (Settings.load { file, environment }).mapError Mishap.settings
  match world.entry settingsPath with
  | .file contents =>
    match Utf8.decode contents with
    | .ok t => load (Settings.ofFile environment t)
    | .error e => .error (.undecodable e)
  | _ => load []

def run (world : World) (arguments : List Text) : Report :=
  match loadSettings world with
  | .error m => Report.ended (.mishap m)
  | .ok settings =>
    match Options.ofArguments arguments with
    | .error .help => Report.ended .help
    | .error (.wrong e) => Report.ended (.usage e)
    | .ok options =>
      let level := settings.logLevel.toUpper
      if levels.contains level then carryOut world settings options
      else Report.ended (.mishap (.unknownLevel level))

def commandName : Text := "slide-patch"

def usageLine (e : UsageError) : Text :=
  commandName ++ ": error: " ++ e.message ++ "\n"

def helpText : Text :=
  "usage: " ++ commandName ++ " (--text TEXT | --file FILE) --document FILE [--locks FILE]\n" ++
    "  [--allow SLIDE_INDEX:OBJECT_ID]... [--slide-index N] [--output FILE]\n" ++
    "  [--pretty] [--report] [--quiet]\n"

end CommandLine
end DeckEdit
