import DeckEdit.Text.Basic

/-! UTF-8. Bytes are read one at a time: the first byte of a sequence says how many follow and in
    which range the next one lies, so that a sequence that spells a code point in too many bytes, a
    surrogate or a number past the last code point ends at the first byte that gives it away. -/

namespace DeckEdit
namespace Utf8

/-! ### Decoding -/

inductive Reason where
  | invalidStart
  | invalidContinuation
  | unexpectedEnd
  deriving DecidableEq, Repr

/-- The bytes at fault: where the first one is, how many there are, and its value. -/
structure DecodeError where
  reason : Reason
  position : Nat
  length : Nat
  byte : UInt8
  deriving DecidableEq, Repr

/-- What the first byte of a sequence announces: how many bytes follow, the bounds of the next one,
    and the leading bits of the code point. -/
structure Lead where
  follow : Nat
  low : Nat
  high : Nat
  bits : Nat

def lead? (b : Nat) : Option Lead :=
  if b < 0x80 then some ⟨0, 0x80, 0xBF, b⟩
  else if b < 0xC2 then none
  else if b < 0xE0 then some ⟨1, 0x80, 0xBF, b - 0xC0⟩
  else if b = 0xE0 then some ⟨2, 0xA0, 0xBF, 0⟩
  else if b = 0xED then some ⟨2, 0x80, 0x9F, 0xD⟩
  else if b < 0xF0 then some ⟨2, 0x80, 0xBF, b - 0xE0⟩
  else if b = 0xF0 then some ⟨3, 0x90, 0xBF, 0⟩
  else if b < 0xF4 then some ⟨3, 0x80, 0xBF, b - 0xF0⟩
  else if b = 0xF4 then some ⟨3, 0x80, 0x8F, 4⟩
  else none

/-- A sequence that has begun: its first byte, the number of bytes so far, how many are still to
    come, the bounds of the next one, and the bits so far. -/
structure Pending where
  first : UInt8
  seen : Nat
  owed : Nat
  low : Nat
  high : Nat
  bits : Nat

/-- Decodes the bytes from a position on, after the code points `taken`, last first. -/
def decodeFrom (position : Nat) (pending : Option Pending) (taken : Text) :
    List UInt8 → Except DecodeError Text
  | [] =>
    match pending with
    | none => .ok taken.reverse
    | some p => .error ⟨.unexpectedEnd, position - p.seen, p.seen, p.first⟩
  | b :: rest =>
    match pending with
    | none =>
      match lead? b.toNat with
      | none => .error ⟨.invalidStart, position, 1, b⟩
      | some lead =>
        if lead.follow = 0 then
          decodeFrom (position + 1) none (CodePoint.ofNat lead.bits :: taken) rest
        else
          let p : Pending := ⟨b, 1, lead.follow, lead.low, lead.high, lead.bits⟩
          decodeFrom (position + 1) (some p) taken rest
    | some p =>
      if b.toNat < p.low ∨ p.high < b.toNat then
        .error ⟨.invalidContinuation, position - p.seen, p.seen, p.first⟩
      else
        let bits := p.bits * 0x40 + (b.toNat - 0x80)
        if p.owed = 1 then decodeFrom (position + 1) none (CodePoint.ofNat bits :: taken) rest
        else
          let p : Pending := ⟨p.first, p.seen + 1, p.owed - 1, 0x80, 0xBF, bits⟩
          decodeFrom (position + 1) (some p) taken rest

def decode (bytes : List UInt8) : Except DecodeError Text :=
  decodeFrom 0 none [] bytes

/-! ### Encoding -/

/-- The surrogates at fault, which have no form: where the first one is, how many stand there
    together, and its value. -/
structure EncodeError where
  position : Nat
  length : Nat
  codePoint : CodePoint
  deriving DecidableEq, Repr

/-- The continuation byte with the six bits of a number from that bit on. -/
def continuation (n shift : Nat) : UInt8 :=
  UInt8.ofNat (0x80 + n / Nat.pow 2 shift % 0x40)

/-- The bytes of a code point that is not a surrogate. -/
def bytesOf (c : CodePoint) : List UInt8 :=
  let n := c.val
  if n < 0x80 then [UInt8.ofNat n]
  else if n < 0x800 then [UInt8.ofNat (0xC0 + n / 0x40), continuation n 0]
  else if n < 0x10000 then
    [UInt8.ofNat (0xE0 + n / 0x1000), continuation n 6, continuation n 0]
  else
    [UInt8.ofNat (0xF0 + n / 0x40000), continuation n 12, continuation n 6, continuation n 0]

/-- The first surrogate that is not among the `spared` ones, and those right after it. -/
def unencodable? (spared : CodePoint → Bool) (t : Text) : Option EncodeError :=
  match t.dropWhile fun c => !c.isSurrogate || spared c with
  | [] => none
  | c :: rest =>
    let surrogates := (c :: rest).takeWhile (·.isSurrogate)
    some ⟨t.length - rest.length - 1, surrogates.length, c⟩

/-- The bytes of a text, if it holds no surrogates. -/
def encode (t : Text) : Except EncodeError (List UInt8) :=
  match unencodable? (fun _ => false) t with
  | none => .ok (t.flatMap bytesOf)
  | some e => .error e

/-! ### Bytes that are no UTF-8

A text of the system, such as a variable or a name of a file, may be any bytes. Those that are not UTF-8
stand in it as surrogates from U+DC80 on. -/

/-- A surrogate that stands for a byte. -/
def standsForByte (c : CodePoint) : Bool :=
  0xDC80 ≤ c.val && c.val ≤ 0xDCFF

/-- The bytes of a code point that is not a surrogate, or that stands for a byte. -/
def systemBytesOf (c : CodePoint) : List UInt8 :=
  if standsForByte c then [UInt8.ofNat (c.val - 0xDC00)] else bytesOf c

/-- The text of bytes as long as there is fuel, of which one piece is enough for each byte that is not
    UTF-8, and one more. -/
def systemTextWith (fuel : Nat) (bytes : List UInt8) : Text :=
  match fuel with
  | 0 => []
  | fuel + 1 =>
    match decode bytes with
    | .ok t => t
    | .error e =>
      let before := (decode (bytes.take e.position)).toOption.getD []
      let rest := bytes.drop e.position
      let escaped := (rest.take e.length).map fun b => CodePoint.ofNat (0xDC00 + b.toNat)
      before ++ escaped ++ systemTextWith fuel (rest.drop e.length)

/-- The text of bytes, with a surrogate for each one that is not UTF-8. -/
def systemText (bytes : List UInt8) : Text :=
  systemTextWith (bytes.length + 1) bytes

/-- The text that the system gives back for a text: surrogates that are UTF-8 together have become the
    code point that their bytes spell. -/
def systemForm (t : Text) : Text :=
  systemText (t.flatMap systemBytesOf)

/-! ### Messages -/

def Reason.message : Reason → String
  | invalidStart => "invalid start byte"
  | invalidContinuation => "invalid continuation byte"
  | unexpectedEnd => "unexpected end of data"

/-- The positions from one on, as a message gives them. -/
def positions (first length : Nat) : Text :=
  if length = 1 then Text.ofNat first
  else Text.ofNat first ++ "-" ++ Text.ofNat (first + length - 1)

def DecodeError.message (e : DecodeError) : Text :=
  let what : Text :=
    if e.length = 1 then "byte 0x" ++ Text.hexDigits e.byte.toNat 2 else "bytes"
  "'utf-8' codec can't decode " ++ what ++ " in position " ++ positions e.position e.length ++
    ": " ++ Text.ofString e.reason.message

def EncodeError.message (e : EncodeError) : Text :=
  let what : Text :=
    if e.length = 1 then "character '\\u" ++ Text.hexDigits e.codePoint.val 4 ++ "'"
    else "characters"
  "'utf-8' codec can't encode " ++ what ++ " in position " ++ positions e.position e.length ++
    ": surrogates not allowed"

end Utf8
end DeckEdit
