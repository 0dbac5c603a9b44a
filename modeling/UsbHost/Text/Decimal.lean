/-!
Decimal numbers: digits with at most one point among them, and an exponent. There are also names for
infinity and for what is no number, in letters of either case. A sign may come first.
-/

namespace UsbHost.Decimal

def isDigit (c : Char) : Bool := '0' ≤ c && c ≤ '9'

def skipSign : List Char → List Char
  | '+' :: rest | '-' :: rest => rest
  | rest => rest

def isExponentOrEmpty : List Char → Bool
  | [] => true
  | c :: rest =>
    let digits := skipSign rest
    (c == 'e' || c == 'E') && !digits.isEmpty && digits.all isDigit

/-- Digits may be missing on one side of the point. -/
def isFinite (text : List Char) : Bool :=
  match text.dropWhile isDigit with
  | '.' :: rest =>
    let hasDigits := text.head?.any isDigit || rest.head?.any isDigit
    hasDigits && isExponentOrEmpty (rest.dropWhile isDigit)
  | rest => text.head?.any isDigit && isExponentOrEmpty rest

def names : List String := ["inf", "infinity", "nan"]

def isNumber (text : List Char) : Bool :=
  let unsigned := skipSign text
  isFinite unsigned || names.contains (String.ofList (unsigned.map Char.toLower))

end UsbHost.Decimal
