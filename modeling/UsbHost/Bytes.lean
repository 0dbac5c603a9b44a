/-!
Byte strings as lists, the copy of one over another, and their two spellings in hexadecimal: packed
for call logs, spaced for a person to read.
-/

namespace UsbHost

abbrev Bytes := List UInt8

namespace Bytes

def zeros (size : Nat) : Bytes := List.replicate size 0

/-- The first bytes of `data` replaced by as many bytes of `source` as fit. -/
def overwrite (data source : Bytes) : Bytes :=
  source.take data.length ++ data.drop source.length

def hexDigit (value : Nat) : Char :=
  if value < 10 then Char.ofNat ('0'.toNat + value) else Char.ofNat ('a'.toNat + (value - 10))

def hexDigits (byte : UInt8) : List Char :=
  [hexDigit (byte.toNat / 16), hexDigit (byte.toNat % 16)]

def packedChars (data : Bytes) : List Char := data.flatMap hexDigits

def packed (data : Bytes) : String := String.ofList (packedChars data)

def spacedChars : Bytes → List Char
  | [] => []
  | [byte] => hexDigits byte
  | byte :: rest => hexDigits byte ++ ' ' :: spacedChars rest

def spaced (data : Bytes) : String := String.ofList (spacedChars data)

theorem length_overwrite (data source : Bytes) :
    (overwrite data source).length = data.length := by
  simp only [overwrite, List.length_append, List.length_take, List.length_drop]
  omega

theorem take_overwrite (data source : Bytes) :
    (overwrite data source).take (min data.length source.length) = source.take data.length := by
  have shorter : min data.length source.length ≤ (source.take data.length).length :=
    Nat.le_of_eq List.length_take.symm
  rw [overwrite, List.take_append_of_le_length shorter, List.take_take, List.take_eq_take_iff]
  omega

end Bytes

end UsbHost
