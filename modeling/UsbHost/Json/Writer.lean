import UsbHost.Json.Value

/-!
Writing JSON: the compact form, which is the tokens without a blank between them, and the indented
form with two blanks for each level.
-/

namespace UsbHost

namespace Json

def hexUnit (value : Nat) : List Char :=
  let digits := Nat.toDigits 16 value
  "\\u".toList ++ List.replicate (4 - digits.length) '0' ++ digits

def escape (c : Char) : List Char :=
  match c with
  | '"' => ['\\', '"']
  | '\\' => ['\\', '\\']
  | '\x08' => ['\\', 'b']
  | '\x0c' => ['\\', 'f']
  | '\n' => ['\\', 'n']
  | '\r' => ['\\', 'r']
  | '\t' => ['\\', 't']
  | c => if c.toNat < 0x20 then hexUnit c.toNat else [c]

def quote (text : Option String) : List Char :=
  '"' :: (text.getD "").toList.flatMap escape ++ ['"']

/-- A number that is no plain sequence of digits is written as minus zero, which is none. -/
def decimal : Option Nat → List Char
  | some value => Nat.toDigits 10 value
  | none => ['-', '0']

end Json

namespace JsonToken

def spell : JsonToken → List Char
  | leftBrace => ['\x7b']
  | rightBrace => ['\x7d']
  | leftBracket => ['[']
  | rightBracket => [']']
  | colon => [':']
  | comma => [',']
  | null => "null".toList
  | boolean true => "true".toList
  | boolean false => "false".toList
  | number natural => Json.decimal natural
  | string text => Json.quote text

end JsonToken

namespace JsonValue

def compact (value : JsonValue) : String :=
  String.ofList (value.tokens.flatMap JsonToken.spell)

def lineBreak (depth : Nat) : List Char := '\n' :: List.replicate (2 * depth) ' '

mutual

def indentedChars (depth : Nat) : JsonValue → List Char
  | null => JsonToken.spell .null
  | boolean value => JsonToken.spell (.boolean value)
  | number natural => Json.decimal natural
  | string text => Json.quote text
  | array [] => "[]".toList
  | array (item :: rest) =>
    '[' :: indentedItems (depth + 1) (item :: rest) ++ lineBreak depth ++ [']']
  | object [] => ['\x7b', '\x7d']
  | object (member :: rest) =>
    '\x7b' :: indentedMembers (depth + 1) (member :: rest) ++ lineBreak depth ++ ['\x7d']

def indentedItems (depth : Nat) : List JsonValue → List Char
  | [] => []
  | [item] => lineBreak depth ++ indentedChars depth item
  | item :: rest => lineBreak depth ++ indentedChars depth item ++ ',' :: indentedItems depth rest

def indentedMembers (depth : Nat) : List (Option String × JsonValue) → List Char
  | [] => []
  | [(key, value)] =>
    lineBreak depth ++ Json.quote key ++ ": ".toList ++ indentedChars depth value
  | (key, value) :: rest =>
    lineBreak depth ++ Json.quote key ++ ": ".toList ++ indentedChars depth value ++
      ',' :: indentedMembers depth rest

end

def indented (value : JsonValue) : String := String.ofList (indentedChars 0 value)

end JsonValue

end UsbHost
