import UsbHost.Toml.Scalar
import UsbHost.Toml.Text

/-!
TOML documents as statements, one for each line that says something: a header opens a table or one
more element of an array of tables, and an assignment gives a dotted key its value. What the
statements mean together is not decided here.
-/

namespace UsbHost.Toml

inductive Value where
  | text (text : String)
  | scalar
  | array (items : List Value)
  | table (members : List (List String × Value))

inductive Statement where
  | table (path : List String)
  | element (path : List String)
  | assign (path : List String) (value : Value)

/-- The greatest number of keys in a path, and of containers around a value. -/
def depthLimit : Nat := 79

def isGap (c : Char) : Bool := c == ' ' || c == '\t'

def skipGap (text : List Char) : List Char := text.dropWhile isGap

def isCommentChar (c : Char) : Bool := c == '\t' || (0x20 ≤ c.toNat && c.toNat != 0x7f)

def afterBreak? : List Char → Option (List Char)
  | '\n' :: rest => some rest
  | '\r' :: '\n' :: rest => some rest
  | _ => none

def skipComment : List Char → List Char
  | '#' :: rest => rest.dropWhile isCommentChar
  | text => text

def afterLine? (text : List Char) : Option (List Char) :=
  match skipComment (skipGap text) with
  | [] => some []
  | rest => afterBreak? rest

def skipFill (inComment : Bool) : List Char → List Char
  | [] => []
  | '\n' :: rest => skipFill false rest
  | '\r' :: '\n' :: rest => skipFill false rest
  | c :: rest =>
    if inComment then
      if isCommentChar c then skipFill true rest else c :: rest
    else if isGap c then skipFill false rest
    else if c = '#' then skipFill true rest
    else c :: rest

def isBareKey (c : Char) : Bool := c.isAlphanum || c == '-' || c == '_'

def readKey : List Char → Option (String × List Char)
  | '"' :: rest =>
    (readBasic (.plain false) [] rest).map fun (key, rest) => (String.ofList key, rest)
  | '\'' :: rest => (readLiteral [] rest).map fun (key, rest) => (String.ofList key, rest)
  | text =>
    let key := text.takeWhile isBareKey
    if key.isEmpty then none else some (String.ofList key, text.dropWhile isBareKey)

def readPath : (limit : Nat) → List Char → Option (List String × List Char)
  | 0, _ => none
  | limit + 1, text =>
    match readKey (skipGap text) with
    | none => none
    | some (key, rest) =>
      match skipGap rest with
      | '.' :: rest => (readPath limit rest).map fun (path, rest) => (key :: path, rest)
      | rest => some ([key], rest)

mutual

/-- Reads a value with at most `depth` containers inside each other. The fuel bounds the calls. -/
def readValue : (fuel depth : Nat) → List Char → Option (Value × List Char)
  | 0, _, _ => none
  | _ + 1, 0, '[' :: _ => none
  | _ + 1, 0, '\x7b' :: _ => none
  | fuel + 1, depth + 1, '[' :: rest =>
    (readItems fuel depth rest).map fun (items, rest) => (.array items, rest)
  | fuel + 1, depth + 1, '\x7b' :: rest =>
    match skipGap rest with
    | '\x7d' :: rest => some (.table [], rest)
    | rest => (readMembers fuel depth rest).map fun (members, rest) => (.table members, rest)
  | _ + 1, _, '"' :: rest =>
    (readText ('"' :: rest)).map fun (text, rest) => (.text (String.ofList text), rest)
  | _ + 1, _, '\'' :: rest =>
    (readText ('\'' :: rest)).map fun (text, rest) => (.text (String.ofList text), rest)
  | _ + 1, _, text => (Scalar.after? text).map fun rest => (.scalar, rest)

def readItems : (fuel depth : Nat) → List Char → Option (List Value × List Char)
  | 0, _, _ => none
  | fuel + 1, depth, text =>
    match skipFill false text with
    | ']' :: rest => some ([], rest)
    | text =>
      match readValue fuel depth text with
      | none => none
      | some (item, rest) =>
        match skipFill false rest with
        | ']' :: rest => some ([item], rest)
        | ',' :: rest => (readItems fuel depth rest).map fun (items, rest) => (item :: items, rest)
        | _ => none

def readMembers : (fuel depth : Nat) →
    List Char → Option (List (List String × Value) × List Char)
  | 0, _, _ => none
  | fuel + 1, depth, text =>
    match readPath depthLimit text with
    | some (path, '=' :: rest) =>
      match readValue fuel depth (skipGap rest) with
      | none => none
      | some (value, rest) =>
        match skipGap rest with
        | '\x7d' :: rest => some ([(path, value)], rest)
        | ',' :: rest =>
          (readMembers fuel depth rest).map fun (members, rest) => ((path, value) :: members, rest)
        | _ => none
    | _ => none

end

namespace Statement

def readOne : List Char → Option (Statement × List Char)
  | '[' :: '[' :: rest =>
    match readPath depthLimit rest with
    | some (path, ']' :: ']' :: rest) => (afterLine? rest).map fun rest => (.element path, rest)
    | _ => none
  | '[' :: rest =>
    match readPath depthLimit rest with
    | some (path, ']' :: rest) => (afterLine? rest).map fun rest => (.table path, rest)
    | _ => none
  | text =>
    match readPath depthLimit text with
    | some (path, '=' :: rest) =>
      match readValue (2 * rest.length + 2) depthLimit (skipGap rest) with
      | none => none
      | some (value, rest) => (afterLine? rest).map fun rest => (.assign path value, rest)
    | _ => none

def readLines : (fuel : Nat) → List Char → Option (List Statement)
  | 0, _ => none
  | fuel + 1, text =>
    match skipGap text with
    | [] => some []
    | text =>
      match afterLine? text with
      | some rest => readLines fuel rest
      | none =>
        match readOne text with
        | none => none
        | some (statement, rest) => (readLines fuel rest).map (statement :: ·)

def dropMark : List Char → List Char
  | '\ufeff' :: rest => rest
  | text => text

def read (text : List Char) : Option (List Statement) :=
  readLines (text.length + 1) (dropMark text)

end Statement

end UsbHost.Toml
