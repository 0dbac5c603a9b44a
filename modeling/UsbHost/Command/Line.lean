import UsbHost.Command.Options
import UsbHost.Native.Request

/-!
The command line: options for the whole program, then a command with options of its own. A command
line that reads is complete and free of contradictions; whether its texts make sense is found out
when it runs.
-/

namespace UsbHost

inductive Target where
  | named (name : String)
  | ids (vendorId productId : UInt16)
deriving DecidableEq

inductive Command where
  | list (isJson : Bool)
  | probe (target : Target) (isJson : Bool)
  | control (target : Target) (setup : Setup) (data : Option String)
  | read (target : Target) (pipe : UInt8) (size : Nat)
  | write (target : Target) (pipe : UInt8) (data : String)
  | request (target : Target) (setup : Setup) (data : Option String)
deriving DecidableEq

structure CommandLine where
  config : Option String
  saveConfig : Bool
  logLevel : Option String
  command : Option Command
deriving DecidableEq

inductive CommandKind where
  | list
  | probe
  | control
  | read
  | write
  | request
deriving DecidableEq

namespace CommandKind

def all : List CommandKind := [list, probe, control, read, write, request]

def name : CommandKind → String
  | list => "list"
  | probe => "probe"
  | control => "control"
  | read => "read"
  | write => "write"
  | request => "device-request"

def ofName? (name : String) : Option CommandKind :=
  all.find? fun kind => kind.name == name

def help : OptionRule := { name := "help", letter := some 'h', kind := .help }

def json : OptionRule := { name := "json", kind := .flag }

def pipe : OptionRule := { name := "pipe", kind := .number 0xff }

def data : OptionRule := { name := "data", kind := .text }

def targetRules : List OptionRule :=
  [{ name := "device", letter := some 'd', kind := .text },
    { name := "vid", kind := .number 0xffff }, { name := "pid", kind := .number 0xffff }]

def setupRules : List OptionRule :=
  [{ name := "request-type", kind := .number 0xff }, { name := "request", kind := .number 0xff },
    { name := "value", kind := .number 0xffff }, { name := "index", kind := .number 0xffff },
    { name := "length", kind := .number 0xffff }]

def rules : CommandKind → List OptionRule
  | list => [json, help]
  | probe => targetRules ++ [json, help]
  | control => targetRules ++ setupRules ++ [data, help]
  | read => targetRules ++ [pipe, { name := "size", kind := .number widestNumber }, help]
  | write => targetRules ++ [pipe, data, help]
  | request => targetRules ++ setupRules ++ [data, help]

end CommandKind

namespace Options

def required {α : Type} : Option α → Except UsageFault α
  | some value => .ok value
  | none => .error .missingArgument

def target (options : Options) : Except UsageFault Target :=
  match options.text? "device", options.number? "vid", options.number? "pid" with
  | some name, none, none => .ok (.named name)
  | some _, _, _ => .error .conflict
  | none, some vendorId, some productId =>
    .ok (.ids (UInt16.ofNat vendorId) (UInt16.ofNat productId))
  | none, _, _ => .error .missingArgument

def setup (options : Options) : Except UsageFault Setup := do
  let requestType ← required (options.number? "request-type")
  let request ← required (options.number? "request")
  return {
    requestType := UInt8.ofNat requestType
    request := UInt8.ofNat request
    value := UInt16.ofNat ((options.number? "value").getD 0)
    index := UInt16.ofNat ((options.number? "index").getD 0)
    length := UInt16.ofNat ((options.number? "length").getD 0) }

end Options

/-- The command that options make. A contradiction is reported before anything that is missing. -/
def Command.ofOptions (kind : CommandKind) (options : Options) : Except UsageFault Command :=
  match kind with
  | .list => .ok (.list (options.isSet "json"))
  | .probe => do
    let target ← options.target
    return .probe target (options.isSet "json")
  | .control => do
    let target ← options.target
    let setup ← options.setup
    return .control target setup (options.text? "data")
  | .read => do
    let target ← options.target
    let pipe ← Options.required (options.number? "pipe")
    let size ← Options.required (options.number? "size")
    return .read target (UInt8.ofNat pipe) size
  | .write => do
    let target ← options.target
    let pipe ← Options.required (options.number? "pipe")
    let data ← Options.required (options.text? "data")
    return .write target (UInt8.ofNat pipe) data
  | .request => do
    let target ← options.target
    let setup ← options.setup
    return .request target setup (options.text? "data")

def Command.ofArguments (kind : CommandKind) (arguments : List String) :
    Except Interruption Command :=
  match OptionScan.scanArguments kind.rules {} arguments with
  | .error interruption => .error interruption
  | .ok ⟨_, some _, _, _⟩ => .error (.fault .unexpectedArgument)
  | .ok ⟨scan, none, _, _⟩ =>
    OptionScan.liftFault do
      let scan ← scan.settle
      Command.ofOptions kind scan.found

namespace CommandLine

def rules : List OptionRule :=
  [{ name := "config", letter := some 'c', kind := .text },
    { name := "save-config", kind := .flag },
    { name := "log-level", letter := some 'l', kind := .text }, CommandKind.help,
    { name := "version", letter := some 'V', kind := .version }]

def helpName : String := "help"

def isCommandName (word : String) : Bool :=
  word == helpName || (CommandKind.ofName? word).isSome

def readHelp : List String → Interruption
  | [] => .help
  | [word] => if isCommandName word then .help else .fault .unknownCommand
  | _ => .fault .unknownCommand

def ofOptions (command : Option Command) (scan : OptionScan) : Except Interruption CommandLine :=
  match scan.settle with
  | .error fault => .error (.fault fault)
  | .ok scan =>
    .ok {
      config := Options.text? "config" scan.found
      saveConfig := Options.isSet "save-config" scan.found
      logLevel := Options.text? "log-level" scan.found
      command }

/-- Reads the arguments after the program's name. Faults in a command's part come before those in a
value that is still pending in front of it. -/
def ofArguments (arguments : List String) : Except Interruption CommandLine :=
  match OptionScan.scanArguments rules {} arguments with
  | .error interruption => .error interruption
  | .ok ⟨scan, none, _, _⟩ => ofOptions none scan
  | .ok ⟨_, some word, _, true⟩ =>
    .error (.fault (if isCommandName word then .unexpectedArgument else .unknownCommand))
  | .ok ⟨scan, some word, rest, false⟩ =>
    match CommandKind.ofName? word with
    | some kind =>
      match Command.ofArguments kind rest with
      | .error interruption => .error interruption
      | .ok command => ofOptions (some command) scan
    | none => .error (if word == helpName then readHelp rest else .fault .unknownCommand)

end CommandLine

end UsbHost
