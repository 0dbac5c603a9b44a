import UsbHost.Json.Value

/-!
Reading JSON tokens from text, one character at a time. Blanks separate tokens and mean nothing
else. A text may hold no control character; its escapes are the eight short ones and four
hexadecimal digits, where two escapes that make a surrogate pair are one character.
-/

namespace UsbHost.Json

def isSpace (c : Char) : Bool := c == ' ' || c == '\n' || c == '\t' || c == '\r'

/-- A piece of a text: a character, or half of a surrogate pair that has not found the other. -/
inductive Piece where
  | char (c : Char)
  | high (half : Nat)
  | low (half : Nat)
deriving DecidableEq

def addUnit (unit : Nat) (pieces : List Piece) : List Piece :=
  if 0xd800 ≤ unit ∧ unit < 0xdc00 then .high unit :: pieces
  else if 0xdc00 ≤ unit ∧ unit < 0xe000 then
    match pieces with
    | .high half :: rest =>
      .char (Char.ofNat (0x10000 + (half - 0xd800) * 0x400 + (unit - 0xdc00))) :: rest
    | _ => .low unit :: pieces
  else .char (Char.ofNat unit) :: pieces

def Piece.char? : Piece → Option Char
  | .char c => some c
  | .high _ | .low _ => none

def textOf (pieces : List Piece) : Option String :=
  (pieces.reverse.mapM Piece.char?).map String.ofList

def shortEscape? : Char → Option Char
  | '"' => some '"'
  | '\\' => some '\\'
  | '/' => some '/'
  | 'b' => some '\x08'
  | 'f' => some '\x0c'
  | 'n' => some '\n'
  | 'r' => some '\r'
  | 't' => some '\t'
  | _ => none

def isNumberChar (c : Char) : Bool :=
  c.isDigit || c == '-' || c == '+' || c == '.' || c == 'e' || c == 'E'

def allDigits (digits : List Char) : Bool := !digits.isEmpty && digits.all Char.isDigit

def isExponent : List Char → Bool
  | [] => true
  | letter :: digits =>
    (letter == 'e' || letter == 'E') &&
      match digits with
      | '+' :: digits => allDigits digits
      | '-' :: digits => allDigits digits
      | digits => allDigits digits

def isTail : List Char → Bool
  | '.' :: rest =>
    !(rest.takeWhile Char.isDigit).isEmpty && isExponent (rest.dropWhile Char.isDigit)
  | rest => isExponent rest

def isWhole (digits : List Char) : Bool :=
  match digits with
  | [] => false
  | ['0'] => true
  | first :: _ => first != '0'

def valueOfDigits (digits : List Char) : Nat :=
  digits.foldl (fun value c => value * 10 + (c.toNat - '0'.toNat)) 0

def number? (text : List Char) : Option (Option Nat) :=
  let unsigned := match text with
    | '-' :: rest => rest
    | rest => rest
  let whole := unsigned.takeWhile Char.isDigit
  let tail := unsigned.dropWhile Char.isDigit
  if isWhole whole && isTail tail then
    some (if tail.isEmpty && unsigned.length == text.length then some (valueOfDigits whole)
      else none)
  else none

def word? (word : List Char) : Option JsonToken :=
  if word = "null".toList then some .null
  else if word = "true".toList then some (.boolean true)
  else if word = "false".toList then some (.boolean false)
  else none

/-- What the lexer is in the middle of. Collected characters are latest first. -/
inductive LexState where
  | between
  | number (text : List Char)
  | word (text : List Char)
  | string (pieces : List Piece)
  | escape (pieces : List Piece)
  | unit (pieces : List Piece) (digitsLeft value : Nat)

def punctuation? : Char → Option JsonToken
  | '\x7b' => some .leftBrace
  | '\x7d' => some .rightBrace
  | '[' => some .leftBracket
  | ']' => some .rightBracket
  | ':' => some .colon
  | ',' => some .comma
  | _ => none

def begin (c : Char) : Option (List JsonToken × LexState) :=
  match punctuation? c with
  | some token => some ([token], .between)
  | none =>
    if isSpace c then some ([], .between)
    else if c == '"' then some ([], .string [])
    else if isNumberChar c then some ([], .number [c])
    else if c.isLower then some ([], .word [c])
    else none

def finishWith (token : Option JsonToken) (c : Char) : Option (List JsonToken × LexState) :=
  match token, begin c with
  | some token, some (tokens, state) => some (token :: tokens, state)
  | _, _ => none

def step (state : LexState) (c : Char) : Option (List JsonToken × LexState) :=
  match state with
  | .between => begin c
  | .number text =>
    if isNumberChar c then some ([], .number (c :: text))
    else finishWith ((number? text.reverse).map .number) c
  | .word text =>
    if c.isLower then some ([], .word (c :: text)) else finishWith (word? text.reverse) c
  | .string pieces =>
    if c == '"' then some ([.string (textOf pieces)], .between)
    else if c == '\\' then some ([], .escape pieces)
    else if c.toNat < 0x20 then none
    else some ([], .string (.char c :: pieces))
  | .escape pieces =>
    if c == 'u' then some ([], .unit pieces 4 0)
    else (shortEscape? c).map fun c => ([], .string (.char c :: pieces))
  | .unit pieces digitsLeft value =>
    (Numeral.digit? 16 c).map fun digit =>
      let value := value * 16 + digit
      if digitsLeft ≤ 1 then ([], .string (addUnit value pieces))
      else ([], .unit pieces (digitsLeft - 1) value)

def finish : LexState → Option (List JsonToken)
  | .between => some []
  | .number text => (number? text.reverse).map fun natural => [.number natural]
  | .word text => (word? text.reverse).map fun token => [token]
  | .string _ | .escape _ | .unit _ _ _ => none

def scan (state : LexState) : List Char → Option (List JsonToken)
  | [] => finish state
  | c :: rest =>
    match step state c with
    | none => none
    | some (tokens, state) => (scan state rest).map (tokens ++ ·)

def tokens? (text : List Char) : Option (List JsonToken) := scan .between text

end UsbHost.Json
