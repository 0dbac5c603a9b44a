import UsbHost.Command.Run

/-!
The program as a whole: from its arguments to what it prints and the code that it ends with.
-/

namespace UsbHost

inductive Ending where
  | finished (output : String)
  | failed (fault : RunFault)
  | refused (fault : UsageFault)
deriving DecidableEq

namespace Ending

def exitCode : Ending → Nat
  | finished _ => 0
  | failed _ => 1
  | refused _ => 2

def output : Ending → String
  | finished output => output
  | failed _ | refused _ => ""

def errors : Ending → String
  | finished _ => ""
  | failed fault => Report.failure fault.chain
  | refused fault => Report.line ("error: " ++ fault.message)

end Ending

namespace Program

def name : String := "usbh"

def version : String := "0.1.0"

def usage : String :=
  Report.line ("Usage: " ++ name ++ " [OPTIONS] [COMMAND]") ++ Report.line "" ++
    Report.line "Commands:" ++
    String.join (CommandKind.all.map fun kind => Report.line ("  " ++ kind.name)) ++
    Report.line "" ++ Report.line "Options:" ++
    String.join (CommandLine.rules.map fun rule => Report.line ("  --" ++ rule.name))

def run (arguments : List String) (world : World) : Ending × World :=
  match CommandLine.ofArguments arguments with
  | .error (.fault fault) => (.refused fault, world)
  | .error .help => (.finished usage, world)
  | .error .version => (.finished (Report.line (name ++ " " ++ version)), world)
  | .ok line =>
    match line.run world with
    | (.ok output, world) => (.finished output, world)
    | (.error fault, world) => (.failed fault, world)

end Program

end UsbHost
