import DeckEdit.Text.Lines
import DeckEdit.Text.Utf8

/-! Paths. A path keeps its steps up, because what they mean depends on the files. Some texts are paths
    of nothing, and names and paths can be too long. -/

namespace DeckEdit

/-- A path: the slashes it starts with, if any, and the names on the way. -/
structure Path where
  root : Text
  names : List Text
  deriving DecidableEq, Repr

namespace Path

/-- The path that a text spells. Repeated slashes count once, except for just two in front, and names
    that stay in place count nothing. -/
def ofText (t : Text) : Path :=
  let slash : CodePoint := '/'
  let slashes := (t.takeWhile (· == slash)).length
  let root : Text := if slashes = 0 then [] else if slashes = 2 then [slash, slash] else [slash]
  let here : Text := "."
  ⟨root, (Text.splitOn slash t).filter fun name => !name.isEmpty && name != here⟩

/-- The text of a path; the empty path is a point. -/
def text (p : Path) : Text :=
  if p.root.isEmpty && p.names.isEmpty then "." else p.root ++ Text.join "/" p.names

/-! ### Paths that lead nowhere -/

/-- How many bytes a path, or a name on it, takes up. -/
def byteLength (t : Text) : Nat :=
  (t.flatMap Utf8.systemBytesOf).length

def maxNameBytes : Nat := 255

def maxBytes : Nat := 4095

def isTooLong (p : Path) : Bool :=
  maxBytes < byteLength p.text

def isNameTooLong (name : Text) : Bool :=
  maxNameBytes < byteLength name

/-- What keeps a text from being the path of anything. -/
inductive Flaw where
  /-- It has no form in bytes. -/
  | unencodable (e : Utf8.EncodeError)
  /-- It holds U+0000, which would end it. -/
  | nullByte
  deriving DecidableEq, Repr

def flaw? (p : Path) : Option Flaw :=
  match Utf8.unencodable? Utf8.standsForByte p.text with
  | some e => some (.unencodable e)
  | none => if p.text.contains (CodePoint.ofNat 0) then some .nullByte else none

def up : Text := ".."

end Path
end DeckEdit
