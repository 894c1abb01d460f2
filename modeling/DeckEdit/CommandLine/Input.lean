import DeckEdit.CommandLine.Options
import DeckEdit.CommandLine.Report
import DeckEdit.Text.Lines

/-! Reading the files of a run: the reply, the deck and the locks, in this order, so that the first thing
    wrong is the one reported. -/

namespace DeckEdit
namespace CommandLine

/-- The text of a file, with line feeds as line breaks. -/
def decodeFile (contents : List UInt8) : Except Trouble Text :=
  match Utf8.decode contents with
  | .ok t => .ok t.normalizeLines
  | .error e => .error (.mishap (.undecodable e))

/-- The text of a file; `absent` is the failure that there is none. -/
def readFile (world : World) (path : Path) (absent : Text) : Except Trouble Text :=
  match world.entry path with
  | .file contents => decodeFile contents
  | .directory => .error (.mishap (.isDirectory path))
  | .tooLong => .error (.mishap (.nameTooLong path))
  | _ => .error (.failure absent)

/-- The path of a file that has to be read. -/
def needed : Option Path → Except Trouble Path
  | some path => .ok path
  | none => .error (.mishap .noPath)

/-- The reply, as it is given or from its file. -/
def readReply (world : World) : Source → Except Trouble Text
  | .given t => .ok t
  | .file path => do
    let path ← needed path
    readFile world path ("File not found: " ++ path.text)

/-- The value in a JSON file. A message names the file by its `role`. -/
def readJson (world : World) (path : Path) (role roleInside : Text) : Except Trouble Json := do
  let t ← readFile world path (role ++ " file not found: " ++ path.text)
  match Json.read t with
  | .ok v => return v
  | .error (.malformed d place) =>
    .error (.failure
      ("Invalid " ++ roleInside ++ " JSON: " ++ (Json.ReadError.malformed d place).message))
  | .error e => .error (.mishap (.beyondLimit e))

structure Input where
  reply : Text
  document : Json.Members
  locks : Json

/-- Reads all files, in the order in which failures count. -/
def readInput (world : World) (options : Options) : Except Trouble Input := do
  let reply ← readReply world options.source
  match ← readJson world (← needed options.document) "Document" "document" with
  | .object document =>
    let locks ←
      match options.locks with
      | none => .ok .null
      | some path => readJson world path "Locks" "locks"
    return { reply, document, locks }
  | _ => .error (.failure "Document must be a JSON object")

end CommandLine
end DeckEdit
