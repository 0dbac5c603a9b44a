/-!
Text for a terminal. Styles are switched by control sequences, which start with an escape character.
Where the output is no terminal, the sequences and all other control characters are taken out, and
only printed characters and white space are left.
-/

namespace UsbHost.Terminal

def escape : Char := '\x1b'

def styled (style : String) (text : String) : String :=
  "\x1b[" ++ style ++ "m" ++ text ++ "\x1b[0m"

def bold : String := "1"

def yellow : String := "33"

inductive State where
  | ground
  | escaped
  | intermediate
  | sequence
  | parameter
  | parametersEnd
  | badSequence
  | device
  | deviceParameter
  | deviceParametersEnd
  | string
  | command
deriving DecidableEq

def isSpace (c : Char) : Bool := c == '\t' || c == '\n' || c == '\x0c' || c == '\r'

def isBetween (first last : Char) (c : Char) : Bool := first ≤ c && c ≤ last

/-- Whether the second or a later byte of a character is the one that ends strings. -/
def endsStrings (c : Char) : Bool :=
  (String.singleton c).toUTF8.toList.contains 0x9c

def afterEscape (c : Char) : State :=
  if c = '[' then .sequence
  else if c = ']' then .command
  else if c = 'P' then .device
  else if c = 'X' || c = '^' || c = '_' then .string
  else if isBetween ' ' '/' c then .intermediate
  else if isBetween '0' '~' c then .ground
  else .escaped

/-- The state after a character in a sequence with parameters. `isFirst` says that nothing is before
it, and only then may it be a private sign. -/
def afterParameter (isFirst : Bool) (c : Char) (stay : State) : State :=
  if isBetween ' ' '/' c then .parametersEnd
  else if isBetween '0' ';' c then .parameter
  else if isBetween '<' '?' c then if isFirst then .parameter else .badSequence
  else if isBetween '@' '~' c then .ground
  else stay

def afterDeviceParameter (isFirst : Bool) (c : Char) (stay : State) : State :=
  if isBetween ' ' '/' c then .deviceParametersEnd
  else if isBetween '0' ';' c then .deviceParameter
  else if isBetween '<' '?' c then if isFirst then .deviceParameter else .string
  else if isBetween '@' '~' c then .string
  else stay

def next (state : State) (c : Char) : State :=
  if c = escape then .escaped
  else if c = '\x18' || c = '\x1a' then .ground
  else
    match state with
    | .ground => .ground
    | .escaped => afterEscape c
    | .intermediate => if isBetween '0' '~' c then .ground else .intermediate
    | .sequence => afterParameter true c .sequence
    | .parameter => afterParameter false c .parameter
    | .parametersEnd =>
      if isBetween '0' '?' c then .badSequence
      else if isBetween '@' '~' c then .ground
      else .parametersEnd
    | .badSequence => if isBetween '@' '~' c then .ground else .badSequence
    | .device => afterDeviceParameter true c .device
    | .deviceParameter => afterDeviceParameter false c .deviceParameter
    | .deviceParametersEnd =>
      if isBetween '0' '~' c then .string else .deviceParametersEnd
    | .string => if endsStrings c then .ground else .string
    | .command => if c = '\x07' then .ground else .command

def isPrinted (c : Char) : Bool := isSpace c || isBetween ' ' '~' c || 0x80 ≤ c.toNat

/-- Whether a character is printed in a state. White space belongs to a string, but not to another
sequence. -/
def isShown (state : State) (c : Char) : Bool :=
  match state with
  | .ground => isPrinted c
  | .escaped | .intermediate | .sequence | .parameter | .parametersEnd | .badSequence => isSpace c
  | .device | .deviceParameter | .deviceParametersEnd | .string | .command => false

/-- White space inside a sequence is printed, and so is what follows it up to a character that is
never printed; only then the sequence goes on. A character of more than one byte gives it up. -/
def afterShown (state : State) (c : Char) : State :=
  if 0x80 ≤ c.toNat then .ground else state

def strip (state : State) (isRun : Bool) : List Char → List Char
  | [] => []
  | c :: rest =>
    if isRun && isPrinted c || isShown state c then c :: strip (afterShown state c) true rest
    else strip (next state c) false rest

def plain (text : String) : String := String.ofList (strip .ground false text.toList)

def firstLine (text : String) : String :=
  let line := text.toList.takeWhile (· != '\n')
  String.ofList (if line.getLast? = some '\r' then line.dropLast else line)

end UsbHost.Terminal
