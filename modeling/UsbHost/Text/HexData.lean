import UsbHost.Bytes
import UsbHost.Text.Blank
import UsbHost.Text.Numeral

/-!
Byte strings typed by hand: hexadecimal pairs with blanks, colons and commas anywhere between the
characters, and at most one leading `0x`.
-/

namespace UsbHost

inductive HexDataFault where
  | foreignCharacters (text : String)
  | oddDigits (text : String)
  | badPair (pair : String) (cause : NumeralFault)
deriving DecidableEq

def HexDataFault.chain : HexDataFault → List String
  | .foreignCharacters text => ["Hex data '" ++ text ++ "' contains non-hex characters"]
  | .oddDigits text => ["Hex data '" ++ text ++ "' has an odd number of digits"]
  | .badPair pair cause => ["Invalid hex byte '" ++ pair ++ "'", cause.message]

namespace HexData

def isSeparator (c : Char) : Bool := isBlank c || c == ':' || c == ','

/-- The characters that carry the bytes. The sign is looked for after the separators are gone. -/
def payload (text : List Char) : List Char :=
  let kept := text.filter fun c => !isSeparator c
  (Numeral.afterHexSign? kept).getD kept

def readPairs : List Char → Except HexDataFault Bytes
  | high :: low :: rest =>
    match Numeral.read 16 255 [high, low] with
    | .error cause => .error (.badPair (String.ofList [high, low]) cause)
    | .ok value =>
      match readPairs rest with
      | .error fault => .error fault
      | .ok bytes => .ok (UInt8.ofNat value :: bytes)
  | _ => .ok []

def read (text : String) : Except HexDataFault Bytes :=
  let digits := payload text.toList
  if digits.any fun c => 0x7f < c.toNat then .error (.foreignCharacters text)
  else if digits.length % 2 = 1 then .error (.oddDigits text)
  else readPairs digits

end HexData

end UsbHost
