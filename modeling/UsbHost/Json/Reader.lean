import UsbHost.Json.Lexer

/-!
Reading a JSON value from tokens. The reader keeps the containers that are still open on a stack, so
it takes one token at a time and documents may nest to any depth.
-/

namespace UsbHost.Json

/-- An open container: what it has so far, latest first, and for an object the key whose value is
being read. -/
inductive Frame where
  | items (done : List JsonValue)
  | members (done : List (Option String × JsonValue)) (key : Option String)

inductive ReadState where
  | value (stack : List Frame)
  | firstItem (stack : List Frame)
  | afterItem (stack : List Frame) (done : List JsonValue)
  | firstKey (stack : List Frame)
  | key (stack : List Frame) (done : List (Option String × JsonValue))
  | colon (stack : List Frame) (done : List (Option String × JsonValue)) (key : Option String)
  | afterMember (stack : List Frame) (done : List (Option String × JsonValue))
  | finished (value : JsonValue)

def place (value : JsonValue) : List Frame → ReadState
  | [] => .finished value
  | .items done :: stack => .afterItem stack (value :: done)
  | .members done key :: stack => .afterMember stack ((key, value) :: done)

def open? (stack : List Frame) : JsonToken → Option ReadState
  | .null => some (place .null stack)
  | .boolean value => some (place (.boolean value) stack)
  | .number natural => some (place (.number natural) stack)
  | .string text => some (place (.string text) stack)
  | .leftBracket => some (.firstItem stack)
  | .leftBrace => some (.firstKey stack)
  | _ => none

def take (state : ReadState) (token : JsonToken) : Option ReadState :=
  match state with
  | .value stack => open? stack token
  | .firstItem stack =>
    match token with
    | .rightBracket => some (place (.array []) stack)
    | token => open? (.items [] :: stack) token
  | .afterItem stack done =>
    match token with
    | .comma => some (.value (.items done :: stack))
    | .rightBracket => some (place (.array done.reverse) stack)
    | _ => none
  | .firstKey stack =>
    match token with
    | .rightBrace => some (place (.object []) stack)
    | .string key => some (.colon stack [] key)
    | _ => none
  | .key stack done =>
    match token with
    | .string key => some (.colon stack done key)
    | _ => none
  | .colon stack done key =>
    match token with
    | .colon => some (.value (.members done key :: stack))
    | _ => none
  | .afterMember stack done =>
    match token with
    | .comma => some (.key stack done)
    | .rightBrace => some (place (.object done.reverse) stack)
    | _ => none
  | .finished _ => none

def takeAll (state : ReadState) : List JsonToken → Option ReadState
  | [] => some state
  | token :: rest =>
    match take state token with
    | none => none
    | some state => takeAll state rest

def ofTokens? (tokens : List JsonToken) : Option JsonValue :=
  match takeAll (.value []) tokens with
  | some (.finished value) => some value
  | _ => none

def read (text : String) : Option JsonValue :=
  match tokens? text.toList with
  | none => none
  | some tokens => ofTokens? tokens

end UsbHost.Json
