import DeckEdit.Entries
import DeckEdit.Issue
import DeckEdit.Number.Numeral

/-! The settings, read from variables of the environment and from a file of variables. Names count in
    any case; a variable of the environment wins over one of the file. -/

namespace DeckEdit

structure Settings where
  /-- Below which level log records are dropped. -/
  logLevel : Text
  /-- The length beyond which a reply is not looked at. -/
  maxReplyLength : Int
  /-- By how many spaces pretty output is indented for each level. -/
  outputIndent : Int
  deriving DecidableEq, Repr

namespace Settings

/-- Variables of the environment with their values. -/
abbrev Variables := Entries Text Text

/-- Names that a file lists, with their values. A name without a value is unset. -/
abbrev FileVariables := Entries Text (Option Text)

/-- What holds where nothing is set. -/
def default : Settings :=
  { logLevel := "WARNING", maxReplyLength := 200000, outputIndent := 2 }

/-- An ASCII letter in upper case. The names of the settings have no other letters. -/
def upperLetter (c : CodePoint) : CodePoint :=
  if CodePoint.ofChar 'a' ≤ c ∧ c ≤ CodePoint.ofChar 'z' then CodePoint.ofNat (c.val - 0x20) else c

/-- What comes last under a name, in any case. -/
def find? {α : Type} (name : Text) (given : Entries Text α) : Option α :=
  (given.reverse.find? fun (n, _) => n.map upperLetter == name).map (·.2)

structure Sources where
  file : FileVariables
  environment : Variables

/-- The text under a name: that of the environment, or else that of the file. -/
def Sources.text? (sources : Sources) (name : Text) : Option Text :=
  (find? name sources.environment).or (find? name sources.file).join

def readInteger (t : Text) : Except Violation Int :=
  if t.any CodePoint.isSurrogate then .error .surrogateInText
  else
    match Numeral.configured t with
    | .ok i => .ok i
    | .error .malformed => .error .unreadableInteger
    | .error .tooLong => .error .longInteger

def Sources.integer (sources : Sources) (name : Text) (default : Int) : Except (List Issue) Int :=
  match sources.text? name with
  | none => .ok default
  | some t => (readInteger t).mapError fun violation => [⟨[.name name], violation⟩]

def logLevelName : Text := "LOG_LEVEL"

def maxReplyLengthName : Text := "MAX_RAW_TEXT_CHARS"

def outputIndentName : Text := "OUTPUT_INDENT"

/-- The settings that variables give, or an issue for each that cannot be read. -/
def load (sources : Sources) : Except (List Issue) Settings :=
  let logLevel := (sources.text? logLevelName).getD default.logLevel
  match sources.integer maxReplyLengthName default.maxReplyLength,
      sources.integer outputIndentName default.outputIndent with
  | .ok maxReplyLength, .ok outputIndent => .ok { logLevel, maxReplyLength, outputIndent }
  | .error issues, .ok _ => .error issues
  | .ok _, .error issues => .error issues
  | .error issues, .error later => .error (issues ++ later)

end Settings
end DeckEdit
