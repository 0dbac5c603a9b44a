import UsbHost.Text.Numeral

/-!
JSON documents as trees and as tokens. A number keeps its value only when it is a plain sequence of
digits, and a text is unknown when one of its escapes names half of a surrogate pair. Such numbers
and texts are well formed all the same.
-/

namespace UsbHost

inductive JsonValue where
  | null
  | boolean (value : Bool)
  | number (natural : Option Nat)
  | string (text : Option String)
  | array (items : List JsonValue)
  | object (members : List (Option String × JsonValue))

inductive JsonToken where
  | leftBrace
  | rightBrace
  | leftBracket
  | rightBracket
  | colon
  | comma
  | null
  | boolean (value : Bool)
  | number (natural : Option Nat)
  | string (text : Option String)
deriving DecidableEq

namespace JsonValue

mutual

def tokens : JsonValue → List JsonToken
  | null => [.null]
  | boolean value => [.boolean value]
  | number natural => [.number natural]
  | string text => [.string text]
  | array items => .leftBracket :: itemTokens items ++ [.rightBracket]
  | object members => .leftBrace :: memberTokens members ++ [.rightBrace]

def itemTokens : List JsonValue → List JsonToken
  | [] => []
  | [item] => tokens item
  | item :: rest => tokens item ++ .comma :: itemTokens rest

def memberTokens : List (Option String × JsonValue) → List JsonToken
  | [] => []
  | [(key, value)] => .string key :: .colon :: tokens value
  | (key, value) :: rest =>
    .string key :: .colon :: tokens value ++ .comma :: memberTokens rest

end

end JsonValue

end UsbHost
