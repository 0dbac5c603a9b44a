import UsbHost.Text.Numeral
import UsbHost.Text.Terminal

/-!
Options on a command line. A value may be attached to its option or follow it; one that follows is
looked at only when the next known option comes or the line ends, so faults further right can be
reported before it. A value that follows may not look like an option.
-/

namespace UsbHost

inductive UsageFault where
  | invalidValue (text option : String) (cause : NumberFault)
  | missingArgument
  | missingValue
  | unexpectedArgument
  | unexpectedValue
  | conflict
  | unknownCommand
deriving DecidableEq

inductive OptionKind where
  | flag
  | text
  | number (limit : Nat)
  | help
  | version
deriving DecidableEq

structure OptionRule where
  name : String
  letter : Option Char := none
  kind : OptionKind
deriving DecidableEq

inductive OptionValue where
  | flag
  | text (text : String)
  | number (value : Nat)
deriving DecidableEq

inductive Interruption where
  | fault (fault : UsageFault)
  | help
  | version
deriving DecidableEq

def valueName (option : String) : String :=
  String.ofList (option.toList.map fun c => if c = '-' then '_' else c.toUpper)

def invalidValueReport (text option : String) (cause : NumberFault) : String :=
  "invalid value '" ++ Terminal.styled Terminal.yellow text ++ "' for '" ++
    Terminal.styled Terminal.bold ("--" ++ option ++ " <" ++ valueName option ++ ">") ++ "': " ++
    cause.message ++ "\n\nFor more information, try '" ++
    Terminal.styled Terminal.bold "--help" ++ "'.\n"

/-- One line of text. Of the report on an invalid value only the first line is told, as it reads
without styles; a value can hold line breaks and control sequences of its own. -/
def UsageFault.message : UsageFault → String
  | invalidValue text option cause =>
    Terminal.firstLine (Terminal.plain (invalidValueReport text option cause))
  | missingArgument => "missing argument"
  | missingValue => "missing value"
  | unexpectedArgument => "unexpected argument"
  | unexpectedValue => "unexpected value"
  | conflict => "conflict"
  | unknownCommand => "unrecognized subcommand"

namespace OptionRule

def takesValue (rule : OptionRule) : Bool :=
  match rule.kind with
  | .text | .number _ => true
  | .flag | .help | .version => false

def read (rule : OptionRule) (text : String) : Except UsageFault OptionValue :=
  match rule.kind with
  | .number limit =>
    match readNumber limit text with
    | .error cause => .error (.invalidValue text rule.name cause)
    | .ok value => .ok (.number value)
  | _ => .ok (.text text)

end OptionRule

/-- The options found so far, and one whose value is still to come or to be looked at. -/
structure OptionScan where
  found : List (String × OptionValue) := []
  pending : Option (OptionRule × Option String) := none
deriving DecidableEq

structure ScannedOptions where
  scan : OptionScan
  word : Option String
  rest : List String
  isTrailing : Bool
deriving DecidableEq

namespace OptionScan

def add (rule : OptionRule) (value : Except UsageFault OptionValue) (scan : OptionScan) :
    Except UsageFault OptionScan :=
  if scan.found.any fun entry => entry.1 == rule.name then .error .conflict
  else
    match value with
    | .error fault => .error fault
    | .ok value => .ok { scan with found := scan.found ++ [(rule.name, value)] }

def settle (scan : OptionScan) : Except UsageFault OptionScan :=
  match scan.pending with
  | none => .ok scan
  | some (_, none) => .error .missingValue
  | some (rule, some text) => { scan with pending := none }.add rule (rule.read text)

def liftFault {α : Type} : Except UsageFault α → Except Interruption α
  | .ok value => .ok value
  | .error fault => .error (.fault fault)

def take (rule : OptionRule) (attached : Option String) (scan : OptionScan) :
    Except Interruption OptionScan :=
  if attached.isSome && !rule.takesValue then .error (.fault .unexpectedValue)
  else
    match scan.settle with
    | .error fault => .error (.fault fault)
    | .ok scan =>
      match rule.kind, attached with
      | .help, _ => .error .help
      | .version, _ => .error .version
      | .flag, _ => liftFault (scan.add rule (.ok .flag))
      | _, none => .ok { scan with pending := some (rule, none) }
      | _, some text => liftFault (scan.add rule (rule.read text))

def attachedToName : List Char → Option String
  | '=' :: text => some (String.ofList text)
  | _ => none

def attachedToLetter : List Char → Option String
  | [] => none
  | '=' :: text => some (String.ofList text)
  | text => some (String.ofList text)

def takeName (rules : List OptionRule) (text : List Char) (scan : OptionScan) :
    Except Interruption OptionScan :=
  let name := String.ofList (text.takeWhile (· != '='))
  match rules.find? fun rule => rule.name == name with
  | none => .error (.fault .unexpectedArgument)
  | some rule => scan.take rule (attachedToName (text.dropWhile (· != '=')))

def takeLetters (rules : List OptionRule) :
    List Char → OptionScan → Except Interruption OptionScan
  | [], scan => .ok scan
  | letter :: text, scan =>
    match rules.find? fun rule => rule.letter == some letter with
    | none => .error (.fault .unexpectedArgument)
    | some rule =>
      if rule.takesValue then scan.take rule (attachedToLetter text)
      else
        match scan.take rule none with
        | .error interruption => .error interruption
        | .ok scan => takeLetters rules text scan

def scanArguments (rules : List OptionRule) (scan : OptionScan) :
    List String → Except Interruption ScannedOptions
  | [] => .ok ⟨scan, none, [], false⟩
  | argument :: rest =>
    match argument.toList with
    | ['-', '-'] => .ok ⟨scan, rest.head?, rest.tail, true⟩
    | '-' :: '-' :: text =>
      match scan.takeName rules text with
      | .error interruption => .error interruption
      | .ok scan => scanArguments rules scan rest
    | '-' :: letter :: text =>
      match scan.takeLetters rules (letter :: text) with
      | .error interruption => .error interruption
      | .ok scan => scanArguments rules scan rest
    | _ =>
      match scan.pending with
      | some (rule, none) =>
        scanArguments rules { scan with pending := some (rule, some argument) } rest
      | _ => .ok ⟨scan, some argument, rest, false⟩

end OptionScan

abbrev Options := List (String × OptionValue)

namespace Options

def isSet (name : String) (options : Options) : Bool :=
  options.any fun entry => entry.1 == name

def text? (name : String) (options : Options) : Option String :=
  match options.lookup name with
  | some (.text text) => some text
  | _ => none

def number? (name : String) (options : Options) : Option Nat :=
  match options.lookup name with
  | some (.number value) => some value
  | _ => none

end Options

end UsbHost
