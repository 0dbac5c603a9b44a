/-!
Unsigned numerals: one optional plus sign and then digits of a base. The value is exact and never
wraps. Of two faults the one further left is reported; a character that is no digit comes before
the size of the value it would have made.
-/

namespace UsbHost

inductive NumeralFault where
  | empty
  | invalidDigit
  | tooLarge
deriving DecidableEq

def NumeralFault.message : NumeralFault → String
  | .empty => "cannot parse integer from empty string"
  | .invalidDigit => "invalid digit found in string"
  | .tooLarge => "number too large to fit in target type"

namespace Numeral

def digit? (base : Nat) (c : Char) : Option Nat :=
  let value :=
    if '0' ≤ c ∧ c ≤ '9' then c.toNat - '0'.toNat
    else if 'a' ≤ c ∧ c ≤ 'f' then c.toNat - 'a'.toNat + 10
    else if 'A' ≤ c ∧ c ≤ 'F' then c.toNat - 'A'.toNat + 10
    else base
  if value < base then some value else none

/-- Appends digits to `value`, stopping as soon as it would pass `limit`. -/
def append (base limit : Nat) : Nat → List Char → Except NumeralFault Nat
  | value, [] => .ok value
  | value, c :: rest =>
    match digit? base c with
    | none => .error .invalidDigit
    | some digit =>
      if limit < value * base + digit then .error .tooLarge
      else append base limit (value * base + digit) rest

def read (base limit : Nat) : List Char → Except NumeralFault Nat
  | [] => .error .empty
  | ['+'] => .error .invalidDigit
  | '+' :: rest => append base limit 0 rest
  | text => append base limit 0 text

def afterHexSign? : List Char → Option (List Char)
  | '0' :: 'x' :: rest => some rest
  | '0' :: 'X' :: rest => some rest
  | _ => none

end Numeral

inductive NumberFault where
  | invalid (text : String) (cause : NumeralFault)
  | outOfRange (text : String)
deriving DecidableEq

def NumberFault.message : NumberFault → String
  | .invalid text cause => "invalid number '" ++ text ++ "': " ++ cause.message
  | .outOfRange text => text ++ " is out of range"

def widestNumber : Nat := 0xffffffffffffffff

/-- Decimal, or hexadecimal after `0x`. The value is read in full before `limit` is applied. -/
def readNumber (limit : Nat) (text : String) : Except NumberFault Nat :=
  let value :=
    match Numeral.afterHexSign? text.toList with
    | some digits => Numeral.read 16 widestNumber digits
    | none => Numeral.read 10 widestNumber text.toList
  match value with
  | .error cause => .error (.invalid text cause)
  | .ok number => if number ≤ limit then .ok number else .error (.outOfRange text)

end UsbHost
