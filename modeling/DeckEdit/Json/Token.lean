import DeckEdit.Json.Basic

/-! The tokens of a JSON text: blanks, text literals, numbers and words. Each way a text can fail to be
    JSON is a `Defect`, which is found where reading stops; two limits stand apart from the grammar,
    how deep values nest and how long an integer literal is. -/

namespace DeckEdit
namespace Json

/-- What a text lacks, or has too much of, to be JSON. -/
inductive Defect where
  | byteOrderMark
  | expectedValue
  | expectedName
  | expectedColon
  | expectedComma
  | unterminatedText
  | controlCharacter
  | invalidEscape
  | invalidUnicodeEscape
  | extraData
  deriving DecidableEq, Repr

inductive Container where
  | array
  | object
  deriving DecidableEq, Repr

/-- Why reading stopped. A defect comes with what was left of the text, from its place on. -/
inductive Stop where
  | defect (d : Defect) (rest : Text)
  | longInteger (digits : Nat)
  | tooDeep (container : Container)

def maxIntegerDigits : Nat := 4300

/-! ### Tokens -/

def isBlank (c : CodePoint) : Bool :=
  c == ' ' || c == '\t' || c == '\n' || c == '\r'

def skipBlanks (t : Text) : Text :=
  t.dropWhile isBlank

def isDigit (c : CodePoint) : Bool :=
  CodePoint.ofChar '0' ≤ c && c ≤ CodePoint.ofChar '9'

def digitsValue (digits : Text) : Nat :=
  digits.foldl (fun n c => 10 * n + (c.val - '0'.toNat)) 0

def hexDigit? (c : CodePoint) : Option Nat :=
  if isDigit c then some (c.val - '0'.toNat)
  else if CodePoint.ofChar 'a' ≤ c ∧ c ≤ CodePoint.ofChar 'f' then some (c.val - 'a'.toNat + 10)
  else if CodePoint.ofChar 'A' ≤ c ∧ c ≤ CodePoint.ofChar 'F' then some (c.val - 'A'.toNat + 10)
  else none

def hexValue? (a b c d : CodePoint) : Option Nat := do
  return (((← hexDigit? a) * 16 + (← hexDigit? b)) * 16 + (← hexDigit? c)) * 16 + (← hexDigit? d)

/-- The code point that a backslash and this one stand for. -/
def shortEscape? (c : CodePoint) : Option CodePoint :=
  if c = '"' ∨ c = '\\' ∨ c = '/' then some c
  else if c = 'b' then some (CodePoint.ofNat 0x08)
  else if c = 'f' then some (CodePoint.ofNat 0x0C)
  else if c = 'n' then some '\n'
  else if c = 'r' then some '\r'
  else if c = 't' then some '\t'
  else none

def isHighSurrogate (n : Nat) : Bool :=
  0xD800 ≤ n && n ≤ 0xDBFF

def isLowSurrogate (n : Nat) : Bool :=
  0xDC00 ≤ n && n ≤ 0xDFFF

/-- The code point of a surrogate pair. -/
def joinSurrogates (high low : Nat) : Nat :=
  0x10000 + (high - 0xD800) * 0x400 + (low - 0xDC00)

/-- Puts what an escape stands for after what was `taken`, last first. A low surrogate completes the
    high one that the escape right before it (`paired`) stood for. -/
def takeEscaped (paired : Bool) (n : Nat) (taken : Text) : Text :=
  match taken with
  | high :: earlier =>
    if paired && isLowSurrogate n then CodePoint.ofNat (joinSurrogates high.val n) :: earlier
    else CodePoint.ofNat n :: taken
  | [] => [CodePoint.ofNat n]

/-- Reads on in a text literal; what follows the closing quotation mark is left. `start` is the text
    from the opening mark on, `taken` what the literal has held so far, last first, and `paired` says
    that the last of it is an escaped high surrogate. Four digits that end the text are no escape. -/
def quoted (start : Text) (paired : Bool) (taken : Text) : Text → Except Stop (Text × Text)
  | [] => .error (.defect .unterminatedText start)
  | '"' :: rest => .ok (taken.reverse, rest)
  | '\\' :: rest =>
    match rest with
    | [] => .error (.defect .unterminatedText start)
    | 'u' :: digits =>
      match digits with
      | a :: b :: c :: d :: after :: rest' =>
        match hexValue? a b c d with
        | none => .error (.defect .invalidUnicodeEscape rest)
        | some n => quoted start (isHighSurrogate n) (takeEscaped paired n taken) (after :: rest')
      | _ => .error (.defect .invalidUnicodeEscape rest)
    | e :: rest' =>
      match shortEscape? e with
      | none => .error (.defect .invalidEscape ('\\' :: rest))
      | some c => quoted start false (c :: taken) rest'
  | c :: rest =>
    if c.val < 0x20 then .error (.defect .controlCharacter (c :: rest))
    else quoted start false (c :: taken) rest

/-- The digits at the front of a text, and the rest. -/
def digitRun (t : Text) : Text × Text :=
  t.span isDigit

/-- The digits after a point, and the rest: a point that no digit follows is left. -/
def fraction (t : Text) : Text × Text :=
  match t with
  | '.' :: rest =>
    match digitRun rest with
    | ([], _) => ([], t)
    | found => found
  | _ => ([], t)

/-- The exponent after an `e`, and the rest: an `e` that no exponent follows is left. -/
def exponent? (t : Text) : Option Int × Text :=
  let read (negative : Bool) (rest : Text) : Option Int × Text :=
    match digitRun rest with
    | ([], _) => (none, t)
    | (digits, rest) =>
      let n : Int := digitsValue digits
      (some (if negative then -n else n), rest)
  let signed (rest : Text) : Option Int × Text :=
    match rest with
    | '-' :: rest => read true rest
    | '+' :: rest => read false rest
    | _ => read false rest
  match t with
  | 'e' :: rest => signed rest
  | 'E' :: rest => signed rest
  | _ => (none, t)

/-- The whole part of a number: a zero, or digits that do not start with one. -/
def wholePart? (t : Text) : Option (Text × Text) :=
  match t with
  | '0' :: rest => some (['0'], rest)
  | _ =>
    match digitRun t with
    | ([], _) => none
    | found => some found

/-- Reads a number without its sign. `start` is the text from the sign on. -/
def unsigned (start : Text) (negative : Bool) (t : Text) : Except Stop (Json × Text) :=
  match wholePart? t with
  | none => .error (.defect .expectedValue start)
  | some (whole, rest) =>
    let (fractionDigits, rest) := fraction rest
    let (exponent, rest) := exponent? rest
    if fractionDigits.isEmpty ∧ exponent = none then
      if maxIntegerDigits < whole.length then .error (.longInteger whole.length)
      else
        let n : Int := digitsValue whole
        .ok (.int (if negative then -n else n), rest)
    else
      let digits := digitsValue (whole ++ fractionDigits)
      let power := exponent.getD 0 - fractionDigits.length
      .ok (.float (Binary64.ofDecimal negative digits power), rest)

def number (t : Text) : Except Stop (Json × Text) :=
  match t with
  | '-' :: rest => unsigned t true rest
  | _ => unsigned t false t

/-- What follows a word, if the text starts with it. -/
def afterWord? (word t : Text) : Option Text :=
  if word.isPrefixOf t then some (t.drop word.length) else none

def words : List (Text × Json) :=
  [("null", .null), ("true", .bool true), ("false", .bool false), ("NaN", .float .nan),
    ("Infinity", .float (.infinite false)), ("-Infinity", .float (.infinite true))]

/-- Reads a value that holds no others and is no text: a word or a number. -/
def atom (t : Text) : Except Stop (Json × Text) :=
  match words.findSome? fun (word, v) => (afterWord? word t).map fun rest => (v, rest) with
  | some found => .ok found
  | none => number t

end Json
end DeckEdit
