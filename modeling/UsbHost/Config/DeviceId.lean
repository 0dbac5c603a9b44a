import UsbHost.Text.Numeral

/-!
Device identifiers in a configuration: `0x` and then one to four bytes that read as a hexadecimal
number.
-/

namespace UsbHost

inductive IdKind where
  | vendor
  | product
deriving DecidableEq

def IdKind.name : IdKind → String
  | vendor => "VID"
  | product => "PID"

inductive IdFault where
  | noSign (name text : String)
  | badLength (name text : String)
  | notHex (name text : String)
deriving DecidableEq

def IdFault.message : IdFault → String
  | noSign name text =>
    "Invalid " ++ name ++ " '" ++ text ++ "', must start with '0x' (e.g., '0x1234')"
  | badLength name text => "Invalid " ++ name ++ " '" ++ text ++ "', hex part must be 1-4 digits"
  | notHex name text => "Invalid " ++ name ++ " '" ++ text ++ "', not a valid hex number"

def utf8Length : List Char → Nat
  | [] => 0
  | c :: rest => c.utf8Size + utf8Length rest

def readId (name text : String) : Except IdFault UInt16 :=
  match Numeral.afterHexSign? text.toList with
  | none => .error (.noSign name text)
  | some digits =>
    if digits.isEmpty ∨ 4 < utf8Length digits then .error (.badLength name text)
    else
      match Numeral.read 16 0xffff digits with
      | .error _ => .error (.notHex name text)
      | .ok value => .ok (UInt16.ofNat value)

end UsbHost
