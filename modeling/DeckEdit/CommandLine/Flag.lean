import DeckEdit.Text.Quoted

/-! The options that the command has, under their names, and what can be wrong with arguments. -/

namespace DeckEdit
namespace CommandLine

inductive Flag where
  | help
  | text
  | file
  | document
  | locks
  | allow
  | slideIndex
  | output
  | pretty
  | report
  | quiet
  deriving DecidableEq, Repr

namespace Flag

def all : List Flag :=
  [help, text, file, document, locks, allow, slideIndex, output, pretty, report, quiet]

/-- The names of an option, as a message gives them. -/
def names : Flag → List Text
  | help => ["-h", "--help"]
  | text => ["--text", "-t"]
  | file => ["--file", "-f"]
  | document => ["--document", "-d"]
  | locks => ["--locks", "-l"]
  | allow => ["--allow", "-a"]
  | slideIndex => ["--slide-index"]
  | output => ["--output", "-o"]
  | pretty => ["--pretty", "-p"]
  | report => ["--report", "-r"]
  | quiet => ["--quiet", "-q"]

def label (flag : Flag) : Text :=
  Text.join "/" flag.names

def takesValue : Flag → Bool
  | help => false
  | pretty => false
  | report => false
  | quiet => false
  | _ => true

def table : List (Text × Flag) :=
  all.flatMap fun flag => flag.names.map fun name => (name, flag)

def named? (name : Text) : Option Flag :=
  (table.find? fun (n, _) => n == name).map (·.2)

/-- The option that a hyphen and this code point name. -/
def short? (c : CodePoint) : Option Flag :=
  named? ['-', c]

end Flag

inductive UsageError where
  | valueExpected (flag : Flag)
  | valueIgnored (flag : Flag) (value : Text)
  | notInteger (flag : Flag) (value : Text)
  | excluded (flag other : Flag)
  | ambiguous (argument : Text) (names : List Text)
  | flagsRequired (flags : List Flag)
  | oneOfRequired (flags : List Flag)
  | unrecognized (arguments : List Text)
  deriving DecidableEq, Repr

namespace UsageError

def about (flag : Flag) (what : Text) : Text :=
  "argument " ++ flag.label ++ ": " ++ what

def message : UsageError → Text
  | valueExpected flag => about flag "expected one argument"
  | valueIgnored flag value => about flag ("ignored explicit argument " ++ value.quoted)
  | notInteger flag value => about flag ("invalid int value: " ++ value.quoted)
  | excluded flag other => about flag ("not allowed with argument " ++ other.label)
  | ambiguous argument names =>
    "ambiguous option: " ++ argument ++ " could match " ++ Text.join ", " names
  | flagsRequired flags =>
    "the following arguments are required: " ++ Text.join ", " (flags.map Flag.label)
  | oneOfRequired flags =>
    "one of the arguments " ++ Text.join " " (flags.map Flag.label) ++ " is required"
  | unrecognized arguments => "unrecognized arguments: " ++ Text.join " " arguments

end UsageError

end CommandLine
end DeckEdit
