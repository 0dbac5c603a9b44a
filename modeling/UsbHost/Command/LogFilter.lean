import UsbHost.Pattern.Reader
import UsbHost.Text.Decimal

/-!
Log filters: directives with commas between them. A directive is a level, a target, or a target with
a span in brackets and a level after an equals sign. A span may have a field in braces, and a field
a value, which is a number or a pattern. A name that is no level is a target, so only a level after
an equals sign can be a bad one.
-/

namespace UsbHost.LogFilter

inductive Fault where
  | badDirective
  | badLevel
  | badField (cause : Pattern.Fault)
deriving DecidableEq

def Fault.message : Fault → String
  | .badDirective => "invalid filter directive"
  | .badLevel =>
    "error parsing level filter: expected one of \"off\", \"error\", \"warn\", \"info\", " ++
      "\"debug\", \"trace\", or a number 0-5"
  | .badField cause => "invalid field filter: " ++ cause.message

def levelNames : List String := ["off", "error", "warn", "info", "debug", "trace"]

def isLevel (text : List Char) : Bool :=
  text.isEmpty || levelNames.contains (String.ofList (text.map Char.toLower)) ||
    match Numeral.read 10 5 text with
    | .ok _ => true
    | .error _ => false

def value? (field : List Char) : Option (List Char) :=
  match field.dropWhile (· != '=') with
  | [] => none
  | _ :: rest => some (rest.takeWhile (· != '='))

def checkField (field : List Char) : Except Fault Unit :=
  match value? field with
  | none => .ok ()
  | some value =>
    if Decimal.isNumber value then .ok () else (Pattern.check value).mapError .badField

def dropBytes? : Nat → List Char → Option (List Char)
  | 0, text => some text
  | _ + 1, [] => none
  | count + 1, c :: rest =>
    if c.utf8Size ≤ count + 1 then dropBytes? (count + 1 - c.utf8Size) rest else none

def takeBytes? : Nat → List Char → Option (List Char)
  | 0, _ => some []
  | _ + 1, [] => none
  | count + 1, c :: rest =>
    if c.utf8Size ≤ count + 1 then (takeBytes? (count + 1 - c.utf8Size) rest).map (c :: ·)
    else none

/-- Where a reader is inside a directive. Positions are where a level or a field started. -/
inductive State where
  | start
  | name
  | target
  | level (start : Nat)
  | span
  | field (start : Nat)
  | fieldsEnd

def isNameStart (c : Char) : Bool := isAlphanumeric c || c == '-' || c == ':' || c == '_'

def closeField (source : List Char) (start stop : Nat) : Except Fault State :=
  match (dropBytes? start source).bind (takeBytes? (stop - start)) with
  | none | some [] => .error .badDirective
  | some field =>
    match checkField field with
    | .error fault => .error fault
    | .ok () => .ok .fieldsEnd

def advance (source : List Char) (state : State) (position : Nat) (c : Char) :
    Except Fault State :=
  match state with
  | .start =>
    if c = '[' then .ok .span else if isNameStart c then .ok .name else .error .badDirective
  | .name =>
    if c = '=' then .ok (.level (position + 1)) else if c = '[' then .ok .span else .ok .name
  | .target => if c = '=' then .ok (.level (position + 1)) else .error .badDirective
  | .level start => .ok (.level start)
  | .span =>
    if c = ']' then .ok .target
    else if c = '\x7b' then .ok (.field (position + 1))
    else .ok .span
  | .field start => if c = '\x7d' then closeField source start position else .ok (.field start)
  | .fieldsEnd => if c = ']' then .ok .target else .error .badDirective

def finish (source : List Char) : State → Except Fault Unit
  | .name | .target => .ok ()
  | .level start => if (dropBytes? start source).any isLevel then .ok () else .error .badLevel
  | _ => .error .badDirective

def checkFrom (source : List Char) (state : State) (position : Nat) :
    List Char → Except Fault Unit
  | [] => finish source state
  | c :: rest =>
    match advance source state position c with
    | .error fault => .error fault
    | .ok state => checkFrom source state (position + c.utf8Size) rest

def trim (text : List Char) : List Char :=
  ((text.dropWhile isBlank).reverse.dropWhile isBlank).reverse

/-- Checks one directive. Its characters are read without the blanks around them, but what starts at
a position, in bytes, is taken from the directive as it stands. -/
def checkDirective (directive : List Char) : Except Fault Unit :=
  checkFrom directive .start 0 (trim directive)

def check (filter : String) : Except Fault Unit :=
  ((filter.splitOn ",").filter (· != "")).forM fun directive => checkDirective directive.toList

/-- The filter in force: the one from the surroundings where it is valid, else the level. -/
def choose (surrounding : Option String) (level : String) : Except Fault Unit :=
  if surrounding.any fun filter => (check filter).toBool then .ok () else check level

end UsbHost.LogFilter
