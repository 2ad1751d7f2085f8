/-! # UTF-8

Strict decoding of bytes. A character is a first byte and the continuation bytes it owes; the first
continuation byte of some characters has a narrower range, so that no character has two forms and
no surrogate is encoded. -/

namespace PageBuilder.Text.Utf8

/-- What is wrong with the first bytes that are not UTF-8. -/
inductive Fault where
  | startByte
  | continuationByte
  | truncated
  deriving DecidableEq, Repr

def Fault.message : Fault → String
  | .startByte => "invalid start byte"
  | .continuationByte => "invalid continuation byte"
  | .truncated => "unexpected end of data"

/-- A character begun: the bytes owed, the range of the next byte, and the bits read. -/
structure Pending where
  owed : Nat
  least : UInt8
  greatest : UInt8
  bits : Nat

/-- The character that a first byte begins; a byte below `0x80` owes nothing. -/
def first (b : UInt8) : Option Pending :=
  if b < 0x80 then some ⟨0, 0x80, 0xBF, b.toNat⟩
  else if b < 0xC2 then none
  else if b < 0xE0 then some ⟨1, 0x80, 0xBF, b.toNat - 0xC0⟩
  else if b = 0xE0 then some ⟨2, 0xA0, 0xBF, 0⟩
  else if b = 0xED then some ⟨2, 0x80, 0x9F, 0xD⟩
  else if b < 0xF0 then some ⟨2, 0x80, 0xBF, b.toNat - 0xE0⟩
  else if b = 0xF0 then some ⟨3, 0x90, 0xBF, 0⟩
  else if b < 0xF4 then some ⟨3, 0x80, 0xBF, b.toNat - 0xF0⟩
  else if b = 0xF4 then some ⟨3, 0x80, 0x8F, 4⟩
  else none

/-- Decode the bytes after the first `owed` ones that complete a character. -/
def decodeFrom : Option Pending → List UInt8 → Except Fault (List Char)
  | none, [] => .ok []
  | some _, [] => .error .truncated
  | none, b :: rest =>
    match first b with
    | none => .error .startByte
    | some p =>
      if p.owed = 0 then (decodeFrom none rest).map (Char.ofNat p.bits :: ·)
      else decodeFrom (some p) rest
  | some p, b :: rest =>
    if p.least ≤ b ∧ b ≤ p.greatest then
      let bits := p.bits * 64 + (b.toNat - 0x80)
      if p.owed ≤ 1 then (decodeFrom none rest).map (Char.ofNat bits :: ·)
      else decodeFrom (some ⟨p.owed - 1, 0x80, 0xBF, bits⟩) rest
    else .error .continuationByte

/-- The text that bytes encode. -/
def decode (bytes : List UInt8) : Except Fault String :=
  (decodeFrom none bytes).map String.ofList

/-- The bytes of a text. -/
def encode (s : String) : List UInt8 :=
  s.toUTF8.toList

end PageBuilder.Text.Utf8
