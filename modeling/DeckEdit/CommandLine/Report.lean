import DeckEdit.CommandLine.FileTree
import DeckEdit.CommandLine.Flag
import DeckEdit.CommandLine.Panel
import DeckEdit.Json.Reader
import DeckEdit.Text.Utf8

/-! What a run of the command reads of the world, and what it does to the world: it ends in one of a few
    ways, prints, shows panels and writes files. -/

namespace DeckEdit
namespace CommandLine

/-- Mishaps that the command does not put into words of its own. -/
inductive Mishap where
  /-- The settings cannot be read. -/
  | settings (issues : List Issue)
  /-- There is no such level for log records. -/
  | unknownLevel (level : Text)
  /-- A file is not UTF-8. -/
  | undecodable (e : Utf8.DecodeError)
  /-- A text to be written has no form in UTF-8. -/
  | unencodable (e : Utf8.EncodeError)
  /-- A file goes beyond a limit of the JSON reader. -/
  | beyondLimit (e : Json.ReadError)
  | isDirectory (path : Path)
  | noSuchFile (path : Path)
  | notDirectory (path : Path)
  | nameTooLong (path : Path)
  /-- A path to write to cannot be the path of anything. -/
  | badPath (flaw : Path.Flaw)
  /-- An option that names a file has been given without a path. -/
  | noPath
  /-- The width of an indentation has no form in 64 bits. -/
  | widthOutOfRange
  /-- An indentation is so wide that memory does not hold it. -/
  | outOfMemory

namespace Mishap

/-- A message of the file system, with its number and the path. -/
def fileMessage (number : Nat) (what : Text) (path : Path) : Text :=
  "[Errno " ++ Text.ofNat number ++ "] " ++ what ++ ": " ++ path.text.quoted

def message : Mishap → Text
  | settings issues => Issue.summarize issues
  | unknownLevel level => "Unknown level: " ++ level.quoted
  | undecodable e => e.message
  | unencodable e => e.message
  | beyondLimit e => e.message
  | isDirectory path => fileMessage 21 "Is a directory" path
  | noSuchFile path => fileMessage 2 "No such file or directory" path
  | notDirectory path => fileMessage 20 "Not a directory" path
  | nameTooLong path => fileMessage 36 "File name too long" path
  | badPath (.unencodable e) => e.message
  | badPath .nullByte => "embedded null byte"
  | noPath => "'list' object has no attribute 'exists'"
  | widthOutOfRange => "cannot fit 'int' into an index-sized integer"
  | outOfMemory => []

end Mishap

/-- Why the command stops: a failure that it reports, or a mishap. -/
inductive Trouble where
  | failure (message : Text)
  | mishap (m : Mishap)

inductive Ending where
  | success
  | failure
  | help
  | usage (e : UsageError)
  | mishap (m : Mishap)

/-- What the command does: what it prints, shows and writes. A file that is written twice holds what was
    written last. -/
structure Report where
  ending : Ending
  output : Text
  errors : Text
  panels : List Panel
  writes : List (Path × List UInt8)

/-- What the command reads of the world: variables of the environment, and what paths lead to. -/
structure World where
  environment : Settings.Variables
  entry : Path → Entry

def Report.ended (ending : Ending) : Report :=
  { ending, output := [], errors := [], panels := [], writes := [] }

end CommandLine
end DeckEdit
