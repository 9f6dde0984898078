import FlowBundle.Text.Quoted
/-!
# UTF-8

Bytes of a text and back.  Reading is a machine that takes one byte at a time: it is between
characters, or it holds the bits of a character that has begun, with the range that the next byte
must lie in.  The range is narrower after the lead bytes E0, ED, F0 and F4, so overlong forms,
surrogates and values beyond the last code point are refused at the byte that shows them.

A fault names the longest run of bytes that could still have begun a character.
-/
namespace FlowBundle

abbrev Bytes := List UInt8

namespace Utf8

def encodeChar (c : Char) : Bytes :=
  let n := c.toNat
  if n < 0x80 then [n.toUInt8]
  else if n < 0x800 then [(0xC0 + n / 0x40).toUInt8, (0x80 + n % 0x40).toUInt8]
  else if n < 0x10000 then
    [(0xE0 + n / 0x1000).toUInt8, (0x80 + n / 0x40 % 0x40).toUInt8, (0x80 + n % 0x40).toUInt8]
  else
    [(0xF0 + n / 0x40000).toUInt8, (0x80 + n / 0x1000 % 0x40).toUInt8, (0x80 + n / 0x40 % 0x40).toUInt8,
      (0x80 + n % 0x40).toUInt8]

def encode (s : String) : Bytes := s.toList.flatMap encodeChar

/-- A character that has begun: the bits so far, the bytes so far and still to come, and the range
of the next one. -/
structure Pending where
  bits : Nat
  taken : Nat
  missing : Nat
  low : Nat
  high : Nat
  deriving DecidableEq, Repr

/-- What a byte that is not plain begins, if it may begin a character. -/
def pending? (b : Nat) : Option Pending :=
  if 0xC2 ≤ b ∧ b ≤ 0xDF then some ⟨b - 0xC0, 1, 1, 0x80, 0xBF⟩
  else if b = 0xE0 then some ⟨0, 1, 2, 0xA0, 0xBF⟩
  else if b = 0xED then some ⟨0xD, 1, 2, 0x80, 0x9F⟩
  else if 0xE1 ≤ b ∧ b ≤ 0xEF then some ⟨b - 0xE0, 1, 2, 0x80, 0xBF⟩
  else if b = 0xF0 then some ⟨0, 1, 3, 0x90, 0xBF⟩
  else if b = 0xF4 then some ⟨4, 1, 3, 0x80, 0x8F⟩
  else if 0xF1 ≤ b ∧ b ≤ 0xF3 then some ⟨b - 0xF0, 1, 3, 0x80, 0xBF⟩
  else none

inductive Reason where
  | start
  | continuation
  | endOfData
  deriving DecidableEq, Repr

/-- The bytes at fault: the index of the first, their number, and the value of the first. -/
structure Fault where
  first : Nat
  count : Nat
  byte : Nat
  reason : Reason
  deriving DecidableEq, Repr

def Reason.text : Reason → String
  | .start => "invalid start byte"
  | .continuation => "invalid continuation byte"
  | .endOfData => "unexpected end of data"

def Fault.message (f : Fault) : String :=
  "'utf-8' codec can't decode " ++
    (if f.count = 1 then
      "byte 0x" ++ String.ofList (Text.hexText 2 f.byte) ++ " in position " ++ toString f.first
    else
      "bytes in position " ++ toString f.first ++ "-" ++ toString (f.first + f.count - 1)) ++
    ": " ++ f.reason.text

/-- **One pass over the bytes.**  `index` is the number of bytes read, `lead` the value of the byte
that began the character in hand, `done` the characters so far, last one first. -/
def decodeFrom (index lead : Nat) (hand : Option Pending) (done : List Char) :
    Bytes → Except Fault (List Char)
  | [] =>
    match hand with
    | none => .ok done.reverse
    | some p => .error ⟨index - p.taken, p.taken, lead, .endOfData⟩
  | byte :: rest =>
    let b := byte.toNat
    match hand with
    | none =>
      if b < 0x80 then decodeFrom (index + 1) b none (Char.ofNat b :: done) rest
      else match pending? b with
        | some p => decodeFrom (index + 1) b (some p) done rest
        | none => .error ⟨index, 1, b, .start⟩
    | some p =>
      if p.low ≤ b ∧ b ≤ p.high then
        let bits := p.bits * 0x40 + (b - 0x80)
        if p.missing = 1 then decodeFrom (index + 1) lead none (Char.ofNat bits :: done) rest
        else decodeFrom (index + 1) lead (some ⟨bits, p.taken + 1, p.missing - 1, 0x80, 0xBF⟩) done rest
      else .error ⟨index - p.taken, p.taken, lead, .continuation⟩

def decode (bytes : Bytes) : Except Fault String :=
  (decodeFrom 0 0 none [] bytes).map String.ofList

def replacement : Char := Char.ofNat 0xFFFD

/-- The characters of bytes of which at most `faults` runs are at fault, each run replaced. -/
def repaired : Nat → Bytes → List Char
  | 0, _ => []
  | faults + 1, bytes =>
    match decode bytes with
    | .ok s => s.toList
    | .error f =>
      match decode (bytes.take f.first) with
      | .ok s => s.toList ++ replacement :: repaired faults (bytes.drop (f.first + f.count))
      | .error _ => []

/-- **The text of bytes that may be at fault**: each run of bytes at fault is one replacement character. -/
def decodeRepaired (bytes : Bytes) : String := String.ofList (repaired (bytes.length + 1) bytes)

end Utf8
end FlowBundle
