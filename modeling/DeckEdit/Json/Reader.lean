import DeckEdit.Json.Token

/-! Reading JSON. The grammar is the strict one with three more numbers, `NaN`, `Infinity` and
    `-Infinity`; of a member written twice the last value counts, in the place of the first. An error
    says what is wrong and where. -/

namespace DeckEdit
namespace Json

/-- How deep values may nest in a text: as deep as the limit on nested calls lets the reader go. -/
def maxDepth : Nat := 980

/-! ### Values

The readers of nested values have two bounds: `depth` is how much deeper values may still nest, and
`fuel` grows with the text and never runs out on the way (each step takes a code point or goes from
a container to its first value). -/

mutual

def value (depth : Nat) : Nat → Text → Except Stop (Json × Text)
  | 0, t => .error (.defect .expectedValue t)
  | fuel + 1, t =>
    match t with
    | '"' :: rest =>
      match quoted t false [] rest with
      | .error stop => .error stop
      | .ok (s, rest) => .ok (.text s, rest)
    | '[' :: rest =>
      match depth with
      | 0 => .error (.tooDeep .array)
      | depth + 1 =>
        match skipBlanks rest with
        | ']' :: rest => .ok (.array [], rest)
        | rest => items depth [] fuel rest
    | '{' :: rest =>
      match depth with
      | 0 => .error (.tooDeep .object)
      | depth + 1 =>
        match skipBlanks rest with
        | '}' :: rest => .ok (.object [], rest)
        | rest => members depth [] fuel rest
    | _ => atom t

/-- Reads the items of an array from one of them on, after those `taken`, last first. -/
def items (depth : Nat) (taken : List Json) : Nat → Text → Except Stop (Json × Text)
  | 0, t => .error (.defect .expectedValue t)
  | fuel + 1, t =>
    match value depth fuel t with
    | .error stop => .error stop
    | .ok (v, rest) =>
      match skipBlanks rest with
      | ']' :: rest => .ok (.array (v :: taken).reverse, rest)
      | ',' :: rest => items depth (v :: taken) fuel (skipBlanks rest)
      | rest => .error (.defect .expectedComma rest)

/-- Reads the members of an object from one of them on, after those `taken`, last first. -/
def members (depth : Nat) (taken : List (Text × Json)) : Nat → Text → Except Stop (Json × Text)
  | 0, t => .error (.defect .expectedName t)
  | fuel + 1, t =>
    match t with
    | '"' :: rest =>
      match quoted t false [] rest with
      | .error stop => .error stop
      | .ok (name, rest) =>
        match skipBlanks rest with
        | ':' :: rest =>
          match value depth fuel (skipBlanks rest) with
          | .error stop => .error stop
          | .ok (v, rest) =>
            let taken := (name, v) :: taken
            match skipBlanks rest with
            | '}' :: rest => .ok (.object (Entries.ofWrites taken.reverse), rest)
            | ',' :: rest => members depth taken fuel (skipBlanks rest)
            | rest => .error (.defect .expectedComma rest)
        | rest => .error (.defect .expectedColon rest)
    | _ => .error (.defect .expectedName t)

end

/-! ### Whole texts -/

/-- A place in a text: the number of code points before it, and its line and column, both counted
    from one. -/
structure Place where
  line : Nat
  column : Nat
  offset : Nat
  deriving DecidableEq, Repr

/-- The place of which `rest` code points follow, in a text. -/
def Place.ofRest (t : Text) (rest : Nat) : Place :=
  let before := t.take (t.length - rest)
  let lastLine := before.reverse.takeWhile (· != CodePoint.ofChar '\n')
  { line := before.count (CodePoint.ofChar '\n') + 1
    column := lastLine.length + 1
    offset := before.length }

inductive ReadError where
  | malformed (d : Defect) (place : Place)
  | longInteger (digits : Nat)
  | tooDeep (container : Container)
  deriving DecidableEq, Repr

def Stop.toError (t : Text) : Stop → ReadError
  | .defect d rest => .malformed d (Place.ofRest t rest.length)
  | .longInteger digits => .longInteger digits
  | .tooDeep container => .tooDeep container

/-- Reads a text that is one value between blanks, with values nested no deeper than `depth`. -/
def readWhole (depth : Nat) (t : Text) : Except Stop Json :=
  match t with
  | '\uFEFF' :: _ => .error (.defect .byteOrderMark t)
  | _ =>
    match value depth (2 * t.length + 2) (skipBlanks t) with
    | .error stop => .error stop
    | .ok (v, rest) =>
      match skipBlanks rest with
      | [] => .ok v
      | rest => .error (.defect .extraData rest)

/-- The value of a JSON text in which values nest no deeper than `depth`. -/
def readWithin (depth : Nat) (t : Text) : Except ReadError Json :=
  (readWhole depth t).mapError (Stop.toError t)

def read (t : Text) : Except ReadError Json :=
  readWithin maxDepth t

/-! ### Messages -/

def Defect.message : Defect → String
  | byteOrderMark => "Unexpected UTF-8 BOM (decode using utf-8-sig)"
  | expectedValue => "Expecting value"
  | expectedName => "Expecting property name enclosed in double quotes"
  | expectedColon => "Expecting ':' delimiter"
  | expectedComma => "Expecting ',' delimiter"
  | unterminatedText => "Unterminated string starting at"
  | controlCharacter => "Invalid control character at"
  | invalidEscape => "Invalid \\escape"
  | invalidUnicodeEscape => "Invalid \\uXXXX escape"
  | extraData => "Extra data"

def Container.name : Container → String
  | array => "array"
  | object => "object"

/-- The text of an error: a defect is followed by its place. -/
def ReadError.message : ReadError → Text
  | malformed d place =>
    Text.ofString d.message ++ ": line " ++ Text.ofNat place.line ++ " column " ++
      Text.ofNat place.column ++ " (char " ++ Text.ofNat place.offset ++ ")"
  | longInteger digits =>
    "Exceeds the limit (" ++ Text.ofNat maxIntegerDigits ++
      " digits) for integer string conversion: value has " ++ Text.ofNat digits ++
      " digits; use sys.set_int_max_str_digits() to increase the limit"
  | tooDeep container =>
    "maximum recursion depth exceeded while decoding a JSON " ++ Text.ofString container.name ++
      " from a unicode string"

end Json
end DeckEdit
