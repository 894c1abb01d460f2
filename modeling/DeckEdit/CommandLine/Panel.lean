import DeckEdit.Edit
import DeckEdit.Json.Printer

/-! Panels: what the command shows on a terminal, with markup for colours left as it is. Markup that cannot be
    read, such as a closing mark without an opening one in a message, is left aside. -/

namespace DeckEdit
namespace CommandLine

inductive Cell where
  | text (t : Text)
  | table (columns : List Text) (rows : List (List Text))

inductive Content where
  | text (t : Text)
  | code (t : Text)
  | rows (rows : List Cell)

/-- A box with a title, or a line of its own. -/
inductive Panel where
  | box (title border : Text) (content : Content)
  | line (t : Text)

def styled (style t : Text) : Text :=
  "[" ++ style ++ "]" ++ t ++ "[/" ++ style ++ "]"

namespace Panel

def boxOf (style title border : Text) (content : Content) : Panel :=
  .box (styled style title) border content

def start (slides textLength : Nat) (hasLocks : Bool) : Panel :=
  let locks : Text := if hasLocks then "Provided" else "None"
  boxOf "bold cyan" "Applying Edit Patch" "cyan" (.text
    (styled "bold" "Slides:" ++ " " ++ Text.ofNat slides ++ "\n" ++
      styled "bold" "Model output:" ++ " " ++ Text.ofNat textLength ++ " characters\n" ++
      styled "bold" "Locks:" ++ " " ++ locks))

def counters (report : Edit.Report) : Cell :=
  .table ["Outcome", "Ops"]
    [[styled "green" "Applied", Text.ofNat report.result.applied],
      [styled "yellow" "Skipped (locked)", Text.ofNat report.result.skippedLocked],
      [styled "yellow" "Skipped (missing)", Text.ofNat report.result.skippedMissing],
      [styled "dim" "Skipped (policy)", Text.ofNat report.skippedPolicy]]

/-- A row with a heading, if there is something to put under it. -/
def row (heading t : Text) (isShown : Bool) : List Cell :=
  if isShown then [.text (styled "bold" heading ++ " " ++ t)] else []

def result (report : Edit.Report) : Panel :=
  let phrases := report.summary.map Summary.Phrase.text
  let note := report.patch.summary.getD []
  boxOf "bold green" "Result" "green" (.rows
    (counters report :: row "Summary:" (Text.join "; " phrases) (!phrases.isEmpty) ++
      row "Model note:" note (!note.isEmpty) ++
      row "Locked targets:" (Text.join ", " report.blocked) (!report.blocked.isEmpty)))

def error (message : Text) : Panel :=
  boxOf "bold red" "Error" "red" (.text (styled "red" message))

/-- A deck, indented by two for each level. -/
def deck (members : Json.Members) : Panel :=
  boxOf "bold" "Next State" "blue" (.code (Json.print (.indented 2) (.object members)))

def saved (message : Text) : Panel :=
  .line (styled "green" message)

/-! ### Plain text -/

def styles : List Text :=
  ["bold", "bold cyan", "bold green", "bold red", "green", "yellow", "dim", "red"]

def marks : List Text :=
  styles.flatMap fun style => ["[" ++ style ++ "]", "[/" ++ style ++ "]"]

/-- The text without the marks of styles; `skip` code points more belong to a mark. -/
def unstyled (skip : Nat) : Text → Text
  | [] => []
  | c :: rest =>
    match skip with
    | skip + 1 => unstyled skip rest
    | 0 =>
      match marks.find? fun mark => mark.isPrefixOf (c :: rest) with
      | some mark => unstyled (mark.length - 1) rest
      | none => c :: unstyled 0 rest

def cellLines : Cell → List Text
  | .text t => [t]
  | .table columns rows => (columns :: rows).map (Text.join "  ")

def plain (panel : Panel) : Text :=
  let lines : List Text :=
    match panel with
    | .line t => [t]
    | .box title _ (.text t) => [title, t]
    | .box title _ (.code t) => [title, t]
    | .box title _ (.rows cells) => title :: cells.flatMap cellLines
  unstyled 0 (Text.join "\n" lines) ++ "\n"

end Panel
end CommandLine
end DeckEdit
