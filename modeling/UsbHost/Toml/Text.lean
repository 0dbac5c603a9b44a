import UsbHost.Text.Numeral

/-!
Texts in TOML: the five ways to write one, how a way is chosen, and how each is read. A short form
has one quote at each end and stays on its line; a long form has three and may hold line breaks.
Basic forms have escapes and literal forms have none.
-/

namespace UsbHost.Toml

inductive TextForm where
  | basic
  | literal
  | longBasic
  | longLiteral
deriving DecidableEq

def isControl (c : Char) : Bool :=
  (c.toNat < 0x20 && c != '\t' && c != '\n') || c.toNat == 0x7f

def hasTriple (quote : Char) : List Char → Bool
  | first :: second :: third :: rest =>
    (first == quote && second == quote && third == quote) ||
      hasTriple quote (second :: third :: rest)
  | _ => false

/-- The first form that can show the text without escapes other than for tabs; if there is none, a
basic form with escapes. -/
def chooseForm (text : List Char) : TextForm :=
  let controls := text.any isControl
  let breaks := text.contains '\n'
  if !controls && !breaks && !text.contains '\\' && !text.contains '"' then .basic
  else if !controls && !breaks && !text.contains '\'' then .literal
  else if !controls && !text.contains '\\' && !hasTriple '"' text then .longBasic
  else if !controls && !hasTriple '\'' text then .longLiteral
  else if breaks then .longBasic
  else .basic

def hexDigitUpper (value : Nat) : Char :=
  if value < 10 then Char.ofNat ('0'.toNat + value) else Char.ofNat ('A'.toNat + (value - 10))

def escape (c : Char) : List Char :=
  match c with
  | '\\' => ['\\', '\\']
  | '\t' => ['\\', 't']
  | '\x08' => ['\\', 'b']
  | '\x0c' => ['\\', 'f']
  | '\r' => ['\\', 'r']
  | c =>
    if c.toNat < 0x20 ∨ c.toNat = 0x7f then
      ['\\', 'u', '0', '0', hexDigitUpper (c.toNat / 16), hexDigitUpper (c.toNat % 16)]
    else [c]

def escapeShort (c : Char) : List Char :=
  match c with
  | '"' => ['\\', '"']
  | '\n' => ['\\', 'n']
  | c => escape c

/-- In a long form a quote needs its escape only where it would be the third in a row. -/
def escapeLong (quotes : Nat) : List Char → List Char
  | [] => []
  | c :: rest =>
    if c = '"' then
      if quotes < 2 then '"' :: escapeLong (quotes + 1) rest
      else '\\' :: '"' :: escapeLong 0 rest
    else if c = '\n' then '\n' :: escapeLong 0 rest
    else escape c ++ escapeLong 0 rest

def leadingBreak (text : List Char) : List Char := if text.contains '\n' then ['\n'] else []

def writeForm (form : TextForm) (text : List Char) : List Char :=
  match form with
  | .basic => '"' :: text.flatMap escapeShort ++ ['"']
  | .literal => '\'' :: text ++ ['\'']
  | .longBasic => ['"', '"', '"'] ++ leadingBreak text ++ escapeLong 0 text ++ ['"', '"', '"']
  | .longLiteral => ['\'', '\'', '\''] ++ leadingBreak text ++ text ++ ['\'', '\'', '\'']

def writeText (text : String) : List Char :=
  writeForm (chooseForm text.toList) text.toList

/-- Where a reader is inside a basic text. A backslash at the end of a line skips all blanks and
line breaks that follow. -/
inductive TextState where
  | plain (skipping : Bool)
  | escape
  | lineEnd
  | unit (digitsLeft value : Nat)

def shortEscape? : Char → Option Char
  | 'b' => some '\x08'
  | 't' => some '\t'
  | 'n' => some '\n'
  | 'f' => some '\x0c'
  | 'r' => some '\r'
  | '"' => some '"'
  | '\\' => some '\\'
  | _ => none

def scalar? (value : Nat) : Option Char :=
  if value.isValidChar then some (Char.ofNat value) else none

def takeUnit (digitsLeft value : Nat) (c : Char) : Option (TextState × Option Char) :=
  match Numeral.digit? 16 c with
  | none => none
  | some digit =>
    if digitsLeft ≤ 1 then
      (scalar? (value * 16 + digit)).map fun c => (.plain false, some c)
    else some (.unit (digitsLeft - 1) (value * 16 + digit), none)

def takeEscape (c : Char) : Option (TextState × Option Char) :=
  if c = 'u' then some (.unit 4 0, none)
  else if c = 'U' then some (.unit 8 0, none)
  else (shortEscape? c).map fun c => (.plain false, some c)

def isTextChar (c : Char) : Bool := !isControl c && c != '\n'

def push (c : Option Char) (text : List Char) : List Char :=
  match c with
  | some c => c :: text
  | none => text

def readBasic (state : TextState) (done : List Char) :
    List Char → Option (List Char × List Char)
  | [] => none
  | c :: rest =>
    match state with
    | .plain _ =>
      if c = '"' then some (done.reverse, rest)
      else if c = '\\' then readBasic .escape done rest
      else if isTextChar c then readBasic (.plain false) (c :: done) rest
      else none
    | .escape =>
      match takeEscape c with
      | none => none
      | some (state, c) => readBasic state (push c done) rest
    | .unit digitsLeft value =>
      match takeUnit digitsLeft value c with
      | none => none
      | some (state, c) => readBasic state (push c done) rest
    | .lineEnd => none

def readLiteral (done : List Char) : List Char → Option (List Char × List Char)
  | [] => none
  | c :: rest =>
    if c = '\'' then some (done.reverse, rest)
    else if isTextChar c then readLiteral (c :: done) rest
    else none

/-- The end of a long form after its three quotes: up to two more are the last of the text. -/
def closeLong (quote : Char) (done : List Char) : List Char → List Char × List Char
  | [] => (done.reverse, [])
  | first :: rest =>
    if first = quote then
      match rest with
      | second :: rest' =>
        if second = quote then ((second :: first :: done).reverse, rest')
        else ((first :: done).reverse, rest)
      | [] => ((first :: done).reverse, [])
    else (done.reverse, first :: rest)

def isClosing (quote first : Char) (rest : List Char) : Bool :=
  match rest with
  | second :: third :: _ => first == quote && second == quote && third == quote
  | _ => false

def readLongBasic (state : TextState) (done : List Char) :
    List Char → Option (List Char × List Char)
  | [] => none
  | '\r' :: '\n' :: rest =>
    match state with
    | .plain true => readLongBasic (.plain true) done rest
    | .plain false => readLongBasic (.plain false) ('\n' :: done) rest
    | .escape | .lineEnd => readLongBasic (.plain true) done rest
    | .unit _ _ => none
  | c :: rest =>
    match state with
    | .plain skipping =>
      if skipping && (c == ' ' || c == '\t' || c == '\n') then
        readLongBasic (.plain true) done rest
      else if isClosing '"' c rest then some (closeLong '"' done (rest.drop 2))
      else if c = '\\' then readLongBasic .escape done rest
      else if isTextChar c || c == '\n' then readLongBasic (.plain false) (c :: done) rest
      else none
    | .escape =>
      if c = ' ' ∨ c = '\t' then readLongBasic .lineEnd done rest
      else if c = '\n' then readLongBasic (.plain true) done rest
      else
        match takeEscape c with
        | none => none
        | some (state, c) => readLongBasic state (push c done) rest
    | .unit digitsLeft value =>
      match takeUnit digitsLeft value c with
      | none => none
      | some (state, c) => readLongBasic state (push c done) rest
    | .lineEnd =>
      if c = ' ' ∨ c = '\t' then readLongBasic .lineEnd done rest
      else if c = '\n' then readLongBasic (.plain true) done rest
      else none

def readLongLiteral (done : List Char) : List Char → Option (List Char × List Char)
  | [] => none
  | '\r' :: '\n' :: rest => readLongLiteral ('\n' :: done) rest
  | c :: rest =>
    if isClosing '\'' c rest then some (closeLong '\'' done (rest.drop 2))
    else if isTextChar c || c == '\n' then readLongLiteral (c :: done) rest
    else none

def dropLeadingBreak : List Char → List Char
  | '\n' :: rest => rest
  | '\r' :: '\n' :: rest => rest
  | text => text

def readText : List Char → Option (List Char × List Char)
  | '"' :: '"' :: '"' :: rest => readLongBasic (.plain false) [] (dropLeadingBreak rest)
  | '"' :: rest => readBasic (.plain false) [] rest
  | '\'' :: '\'' :: '\'' :: rest => readLongLiteral [] (dropLeadingBreak rest)
  | '\'' :: rest => readLiteral [] rest
  | _ => none

end UsbHost.Toml
