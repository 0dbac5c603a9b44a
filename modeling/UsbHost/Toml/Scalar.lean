import UsbHost.Text.Numeral

/-!
TOML values that are neither texts nor containers: booleans, integers of 64 bits, floating-point
numbers, dates and times. A configuration never uses what they stand for, so all there is to know
is whether one is well formed.
-/

namespace UsbHost.Toml.Scalar

def digits? (isDigit : Char → Bool) : List Char → Option (List Char)
  | [] => none
  | [c] => if isDigit c then some [c] else none
  | c :: '_' :: rest => if isDigit c then (digits? isDigit rest).map (c :: ·) else none
  | c :: rest => if isDigit c then (digits? isDigit rest).map (c :: ·) else none

def isDecimal (c : Char) : Bool := '0' ≤ c && c ≤ '9'

def isDigitOf (base : Nat) (c : Char) : Bool := (Numeral.digit? base c).isSome

def valueOf (base : Nat) (digits : List Char) : Nat :=
  digits.foldl (fun value c => value * base + (Numeral.digit? base c).getD 0) 0

def splitSign : List Char → Bool × List Char
  | '-' :: rest => (true, rest)
  | '+' :: rest => (false, rest)
  | text => (false, text)

def whole? (text : List Char) : Option (List Char) :=
  match digits? isDecimal text with
  | some ['0'] => some ['0']
  | some ('0' :: _) => none
  | digits => digits

def integerBound : Nat := 0x8000000000000000

def isDecimalInteger (text : List Char) : Bool :=
  match splitSign text with
  | (isNegative, magnitude) =>
    match whole? magnitude with
    | none => false
    | some digits =>
      if isNegative then valueOf 10 digits ≤ integerBound else valueOf 10 digits < integerBound

def isBasedInteger (base : Nat) (text : List Char) : Bool :=
  match digits? (isDigitOf base) text with
  | none => false
  | some digits => valueOf base digits < integerBound

def isInteger (text : List Char) : Bool :=
  match text with
  | '0' :: 'x' :: rest => isBasedInteger 16 rest
  | '0' :: 'o' :: rest => isBasedInteger 8 rest
  | '0' :: 'b' :: rest => isBasedInteger 2 rest
  | text => isDecimalInteger text

/-- The least value that rounds to infinity in double precision. -/
def overflowBound : Nat := Nat.pow 2 1024 - Nat.pow 2 970

/-- Whether `digits` times ten to the power `exponent` rounds to infinity. The number of digits
decides the clear cases. -/
def overflows (digits : List Char) (exponent : Int) : Bool :=
  let significant := digits.dropWhile (· == '0')
  let magnitude : Int := significant.length + exponent
  if significant.isEmpty || magnitude < 300 then false
  else if 320 < magnitude then true
  else if 0 ≤ exponent then overflowBound ≤ valueOf 10 significant * Nat.pow 10 exponent.toNat
  else overflowBound * Nat.pow 10 (-exponent).toNat ≤ valueOf 10 significant

def exponent? (text : List Char) : Option Int :=
  match splitSign text with
  | (isNegative, magnitude) =>
    (digits? isDecimal magnitude).map fun digits =>
      if isNegative then -(valueOf 10 digits : Int) else valueOf 10 digits

def isExponentLetter (c : Char) : Bool := c == 'e' || c == 'E'

def isDecimalFloat (text : List Char) : Bool :=
  match splitSign text with
  | (isNegative, magnitude) =>
    let mantissa := magnitude.takeWhile fun c => !isExponentLetter c
    let exponentPart := magnitude.dropWhile fun c => !isExponentLetter c
    let wholePart := mantissa.takeWhile (· != '.')
    let fractionPart := mantissa.dropWhile (· != '.')
    let fraction := match fractionPart with
      | [] => some []
      | _ :: digits => digits? isDecimal digits
    let exponent := match exponentPart with
      | [] => some 0
      | _ :: rest => exponent? rest
    match whole? wholePart, fraction, exponent with
    | some whole, some fraction, some exponent =>
      !(fractionPart.isEmpty && exponentPart.isEmpty) &&
        (isNegative || !overflows (whole ++ fraction) (exponent - fraction.length))
    | _, _, _ => false

def isSpecialFloat (text : List Char) : Bool :=
  let magnitude := (splitSign text).2
  magnitude == "inf".toList || magnitude == "nan".toList

def pair? (tens ones : Char) : Option Nat :=
  if isDecimal tens && isDecimal ones then some (valueOf 10 [tens, ones]) else none

def daysIn (year month : Nat) : Nat :=
  if month = 2 then
    if year % 4 = 0 ∧ (year % 100 ≠ 0 ∨ year % 400 = 0) then 29 else 28
  else if month = 4 ∨ month = 6 ∨ month = 9 ∨ month = 11 then 30
  else 31

def afterDate? : List Char → Option (List Char)
  | y1 :: y2 :: y3 :: y4 :: '-' :: m1 :: m2 :: '-' :: d1 :: d2 :: rest =>
    match pair? y1 y2, pair? y3 y4, pair? m1 m2, pair? d1 d2 with
    | some century, some year, some month, some day =>
      if 1 ≤ month ∧ month ≤ 12 ∧ 1 ≤ day ∧ day ≤ daysIn (century * 100 + year) month then
        some rest
      else none
    | _, _, _, _ => none
  | _ => none

def afterFraction? : List Char → Option (List Char)
  | '.' :: rest =>
    if (rest.takeWhile isDecimal).isEmpty then none else some (rest.dropWhile isDecimal)
  | rest => some rest

def afterTime? : List Char → Option (List Char)
  | h1 :: h2 :: ':' :: m1 :: m2 :: ':' :: s1 :: s2 :: rest =>
    match pair? h1 h2, pair? m1 m2, pair? s1 s2 with
    | some hour, some minute, some second =>
      if hour ≤ 23 ∧ minute ≤ 59 ∧ second ≤ 60 then afterFraction? rest else none
    | _, _, _ => none
  | _ => none

def isOffset : List Char → Bool
  | [] => true
  | ['Z'] | ['z'] => true
  | [sign, h1, h2, ':', m1, m2] =>
    (sign == '+' || sign == '-') &&
      match pair? h1 h2, pair? m1 m2 with
      | some hour, some minute => hour ≤ 23 && minute ≤ 59
      | _, _ => false
  | _ => false

def isTimeMark (c : Char) : Bool := c == 'T' || c == 't' || c == ' '

def isDateTime (text : List Char) : Bool :=
  match afterDate? text with
  | some [] => true
  | some (mark :: rest) => isTimeMark mark && ((afterTime? rest).map isOffset).getD false
  | none => afterTime? text == some []

def isBoolean (text : List Char) : Bool := text == "true".toList || text == "false".toList

def isWellFormed (text : List Char) : Bool :=
  isBoolean text || isInteger text || isDecimalFloat text || isSpecialFloat text ||
    isDateTime text

def isPart (c : Char) : Bool :=
  c.isAlphanum || c == '+' || c == '-' || c == '_' || c == '.' || c == ':'

def startsTime : List Char → Bool
  | ' ' :: h1 :: h2 :: ':' :: _ => isDecimal h1 && isDecimal h2
  | _ => false

def after? (text : List Char) : Option (List Char) :=
  let first := text.takeWhile isPart
  let rest := text.dropWhile isPart
  if afterDate? first == some [] && startsTime rest then
    let time := (rest.drop 1).takeWhile isPart
    if isWellFormed (first ++ ' ' :: time) then some ((rest.drop 1).dropWhile isPart) else none
  else if isWellFormed first then some rest
  else none

end UsbHost.Toml.Scalar
