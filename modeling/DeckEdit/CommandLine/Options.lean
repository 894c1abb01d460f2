import DeckEdit.CommandLine.Argument
import DeckEdit.CommandLine.Path
import DeckEdit.Number.Numeral

/-! The options of a run. A value follows its option in the same argument or in the next one, and options
    without a value may share one hyphen. There are no arguments other than options and their
    values. Two hyphens in the same argument as their option are no value: the option has been given,
    and it is empty. -/

namespace DeckEdit
namespace CommandLine

inductive Source where
  | given (t : Text)
  | file (path : Option Path)
  deriving DecidableEq, Repr

/-- The options as they are given. An option that must name a file may be empty, and so may a target
    to be allowed. -/
structure Options where
  source : Source
  document : Option Path
  locks : Option Path
  allow : List (Option Text)
  slideIndex : Option Int
  output : Option Path
  pretty : Bool
  report : Bool
  quiet : Bool
  deriving Repr

/-- The options that have been read so far. -/
structure Draft where
  source : Option Source
  document : Option (Option Path)
  locks : Option Path
  allow : List (Option Text)
  slideIndex : Option Int
  output : Option Path
  pretty : Bool
  report : Bool
  quiet : Bool

def Draft.empty : Draft :=
  ⟨none, none, none, [], none, none, false, false, false⟩

inductive NoOptions where
  | help
  | wrong (e : UsageError)

/-- The last options of a group behind one hyphen: the options before the last one, the last one, and
    its value if the group holds it. `t` is what follows the option. -/
def expandGroup (before : List Flag) (flag : Flag) (t : Text) :
    Except UsageError (List Flag × Flag × Option Text) :=
  match t with
  | [] => .ok (before, flag, none)
  | c :: rest =>
    if flag.takesValue then .ok (before, flag, some t)
    else
      match Flag.short? c with
      | some next => expandGroup (before ++ [flag]) next rest
      | none => .error (.valueIgnored flag t)

/-- The options that an argument stands for, and the value of the last one if the argument holds it. -/
def expand (flag : Flag) (short : Bool) (value : Option Text) :
    Except UsageError (List Flag × Flag × Option Text) :=
  match value with
  | none => .ok ([], flag, none)
  | some t =>
    if flag.takesValue then .ok ([], flag, some t)
    else if short && !t.isEmpty then expandGroup [] flag t
    else .error (.valueIgnored flag t)

/-- The draft with one more option, which is empty if there is no value. The two sources of the reply
    exclude each other. An empty choice of a slide chooses none that there is, like zero; empty locks or an
    empty output are none. -/
def Draft.add (draft : Draft) (flag : Flag) (value : Option Text) : Except NoOptions Draft :=
  match flag with
  | .help => .error .help
  | .text =>
    match draft.source with
    | some (.file _) => .error (.wrong (.excluded .text .file))
    | _ => .ok { draft with source := some (.given (value.getD [])) }
  | .file =>
    match draft.source with
    | some (.given _) => .error (.wrong (.excluded .file .text))
    | _ => .ok { draft with source := some (.file (value.map Path.ofText)) }
  | .document => .ok { draft with document := some (value.map Path.ofText) }
  | .locks => .ok { draft with locks := value.map Path.ofText }
  | .allow => .ok { draft with allow := draft.allow ++ [value] }
  | .slideIndex =>
    match value with
    | none => .ok { draft with slideIndex := some 0 }
    | some t =>
      match Numeral.integer? t with
      | some i => .ok { draft with slideIndex := some i }
      | none => .error (.wrong (.notInteger flag t))
  | .output => .ok { draft with output := value.map Path.ofText }
  | .pretty => .ok { draft with pretty := true }
  | .report => .ok { draft with report := true }
  | .quiet => .ok { draft with quiet := true }

/-- The draft with several options, of which the last one may have a value. -/
def Draft.addGroup (draft : Draft) (before : List Flag) (last : Flag) (value : Option Text) :
    Except NoOptions Draft :=
  match before.foldlM (fun (draft : Draft) flag => draft.add flag none) draft with
  | .error e => .error e
  | .ok draft => draft.add last value

/-- Reads the options among the arguments; the other arguments are collected. -/
def readOptions (draft : Draft) (others : List Text) :
    List (Text × Argument) → Except NoOptions (Draft × List Text)
  | [] => .ok (draft, others)
  | (_, .option flag short value) :: rest =>
    match expand flag short value with
    | .error e => .error (.wrong e)
    | .ok (before, last, value) =>
      match last.takesValue, value, rest with
      | true, none, (next, .value) :: rest =>
        match draft.addGroup before last (some next) with
        | .error e => .error e
        | .ok draft => readOptions draft others rest
      | true, none, _ => .error (.wrong (.valueExpected last))
      | _, value, rest =>
        match draft.addGroup before last (value.filter (· != Text.ofString "--")) with
        | .error e => .error e
        | .ok draft => readOptions draft others rest
  | (t, _) :: rest => readOptions draft (others ++ [t]) rest

/-- The options of a draft, if it has the ones that are required and no argument is left over. -/
def Draft.finish (draft : Draft) (others : List Text) : Except UsageError Options :=
  match draft.document, draft.source, others with
  | none, _, _ => .error (.flagsRequired [.document])
  | _, none, _ => .error (.oneOfRequired [.text, .file])
  | some document, some source, [] =>
    .ok { draft with source, document }
  | _, _, others => .error (.unrecognized others)

def Options.ofArguments (arguments : List Text) : Except NoOptions Options :=
  match classifyAll arguments with
  | .error e => .error (.wrong e)
  | .ok arguments =>
    match readOptions Draft.empty [] arguments with
    | .error e => .error e
    | .ok (draft, others) => (draft.finish others).mapError .wrong

/-- The paths that a run with these options may look up. -/
def Options.paths (options : Options) : List Path :=
  let reply : List Path :=
    match options.source with
    | .file path => path.toList
    | .given _ => []
  reply ++ options.document.toList ++ options.locks.toList ++ options.output.toList

/-- Panels are shown: the user wants a report, and no silence. -/
def Options.showsPanels (options : Options) : Bool :=
  options.report && !options.quiet

end CommandLine
end DeckEdit
