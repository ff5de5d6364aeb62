/-
This file reads bytes as UTF-8 text. A byte sequence is cut into scalar values and
into faults, where a fault is the longest beginning of a scalar value that its next
byte contradicts. Strict reading refuses a text with a fault in it; lossy reading
puts the replacement character in the place of every fault.
-/

namespace Intercept.Text.Utf8

/-- The replacement character, which stands for bytes that are no text. -/
def replacement : Char := '\uFFFD'

/-- What the first byte of a scalar value promises: the number of bytes to follow, the
bits it carries, and the range of its second byte. -/
structure Lead where
  following : Nat
  bits : Nat
  low : Nat
  high : Nat

/-- Reads a first byte. Overlong forms, surrogates and values past the last scalar value
are excluded by the range of the second byte. -/
def lead? (byte : Nat) : Option Lead :=
  if byte < 0x80 then some ⟨0, byte, 0, 0⟩
  else if byte < 0xC2 then none
  else if byte < 0xE0 then some ⟨1, byte - 0xC0, 0x80, 0xBF⟩
  else if byte = 0xE0 then some ⟨2, 0, 0xA0, 0xBF⟩
  else if byte = 0xED then some ⟨2, 0xD, 0x80, 0x9F⟩
  else if byte < 0xF0 then some ⟨2, byte - 0xE0, 0x80, 0xBF⟩
  else if byte = 0xF0 then some ⟨3, 0, 0x90, 0xBF⟩
  else if byte < 0xF4 then some ⟨3, byte - 0xF0, 0x80, 0xBF⟩
  else if byte = 0xF4 then some ⟨3, 4, 0x80, 0x8F⟩
  else none

/-- A scalar value that is only partly read: bytes still to come, the bits so far, and the
range of the next byte. -/
structure Pending where
  remaining : Nat
  bits : Nat
  low : Nat
  high : Nat

/-- Cuts bytes into scalar values and faults (`none`). -/
def pieces : Option Pending → List UInt8 → List (Option Char)
  | none, [] => []
  | some _, [] => [none]
  | none, byte :: rest =>
    match lead? byte.toNat with
    | none => none :: pieces none rest
    | some lead =>
      if lead.following = 0 then some (Char.ofNat lead.bits) :: pieces none rest
      else pieces (some ⟨lead.following, lead.bits, lead.low, lead.high⟩) rest
  | some pending, byte :: rest =>
    if pending.low ≤ byte.toNat ∧ byte.toNat ≤ pending.high then
      let bits := pending.bits * 64 + (byte.toNat - 0x80)
      if pending.remaining ≤ 1 then some (Char.ofNat bits) :: pieces none rest
      else pieces (some ⟨pending.remaining - 1, bits, 0x80, 0xBF⟩) rest
    else
      none :: match lead? byte.toNat with
        | none => none :: pieces none rest
        | some lead =>
          if lead.following = 0 then some (Char.ofNat lead.bits) :: pieces none rest
          else pieces (some ⟨lead.following, lead.bits, lead.low, lead.high⟩) rest

/-- The text of bytes, with the replacement character for every fault. -/
def decodeLossy (bytes : List UInt8) : String :=
  String.ofList ((pieces none bytes).map (·.getD replacement))

/-- The text of bytes, if they are UTF-8 throughout. -/
def decode? (bytes : List UInt8) : Option String :=
  ((pieces none bytes).mapM id).map String.ofList

end Intercept.Text.Utf8
