import UsbHost.Access.Transfer
import UsbHost.Bus.Layer
import UsbHost.Command.LogFilter
import UsbHost.Command.Report
import UsbHost.Config.Storage
import UsbHost.Text.HexData

/-!
Running a command line. Everything that can be checked without a device is checked before one is
opened, and what was opened is closed again whatever happened in between; of two failures the first
is reported.
-/

namespace UsbHost

inductive RunFault where
  | saving (cause : SaveFault)
  | loading (cause : LoadFault)
  | logging (cause : LogFilter.Fault)
  | starting (cause : NativeFault)
  | unknownAlias (name : String)
  | badAlias (cause : IdFault)
  | badData (cause : HexDataFault)
  | dataOnInput
  | dataTooLong (size length : Nat)
  | noInterface (vendorId productId : UInt16)
  | noDevice (vendorId productId : UInt16)
  | usb (failure : Failure)
deriving DecidableEq

def RunFault.chain : RunFault → List String
  | saving cause => "Failed to save configuration" :: cause.chain
  | loading cause => "Failed to load configuration" :: cause.chain
  | logging cause =>
    ["Failed to setup logging",
      (Trouble.configuration ("Invalid log filter: " ++ cause.message)).message]
  | starting cause => ["Failed to initialize libusb", cause.message]
  | unknownAlias name => ["Unknown device alias '" ++ name ++ "'"]
  | badAlias cause => [cause.message]
  | badData cause => cause.chain
  | dataOnInput => ["--data is only valid for host-to-device requests"]
  | dataTooLong size length =>
    ["--data has " ++ toString size ++ " byte(s) but --length is " ++ toString length]
  | noInterface vendorId productId =>
    ["No interface 0 found on " ++ Report.idPair vendorId productId]
  | noDevice vendorId productId => ["No device " ++ Report.idPair vendorId productId ++ " found"]
  | usb failure => failure.chain

def Target.resolve (target : Target) (config : Config) : Except RunFault (UInt16 × UInt16) :=
  match target with
  | .ids vendorId productId => .ok (vendorId, productId)
  | .named name =>
    match config.find? name with
    | none => .error (.unknownAlias name)
    | some entry =>
      match entry.ids with
      | .error cause => .error (.badAlias cause)
      | .ok pair => .ok pair

def dataStage (setup : Setup) : Option String → Except RunFault Bytes
  | none => .ok (Bytes.zeros setup.length.toNat)
  | some text =>
    if setup.isInput then .error .dataOnInput
    else
      match HexData.read text with
      | .error cause => .error (.badData cause)
      | .ok data =>
        if setup.length.toNat < data.length then
          .error (.dataTooLong data.length setup.length.toNat)
        else .ok (data ++ Bytes.zeros (setup.length.toNat - data.length))

namespace Command

variable {σ : Type} [NativeLayer σ]

def ofUsb {α : Type} : Except Failure α → Except RunFault α
  | .ok value => .ok value
  | .error failure => .error (.usb failure)

/-- Runs an operation on the interface of a device and closes it. An interface that does not close
is dropped; that failure counts only if the operation had none. -/
def withInterface {α : Type} (vendorId productId : UInt16)
    (operation : NativeLayer.Interface σ → σ → Except Failure α × σ) (host : σ) :
    Except RunFault α × σ :=
  match Access.findInterface vendorId productId host with
  | (.error failure, host) => (.error (.usb failure), host)
  | (.ok none, host) => (.error (.noInterface vendorId productId), host)
  | (.ok (some interface), host) =>
    match operation interface host with
    | (result, host) =>
      match Access.closeInterface interface host with
      | (.ok (), host) => (ofUsb result, host)
      | (.error failure, host) =>
        (ofUsb (result.bind fun _ => .error failure),
          NativeLayer.dropInterface interface host)

def withDevice {α : Type} (vendorId productId : UInt16)
    (operation : NativeLayer.Device σ → σ → Except Failure α × σ) (host : σ) :
    Except RunFault α × σ :=
  match Access.findDevice vendorId productId host with
  | (.error failure, host) => (.error (.usb failure), host)
  | (.ok none, host) => (.error (.noDevice vendorId productId), host)
  | (.ok (some device), host) =>
    match operation device host with
    | (result, host) => (ofUsb result, Access.closeDevice device host)

def filled : (Except Failure Nat × Bytes) × σ → Except Failure Bytes × σ
  | ((answer, data), host) => (answer.map fun count => data.take count, host)

def onTarget (target : Target) (config : Config) (host : σ)
    (next : UInt16 → UInt16 → σ → Except RunFault String × σ) : Except RunFault String × σ :=
  match target.resolve config with
  | .error fault => (.error fault, host)
  | .ok (vendorId, productId) => next vendorId productId host

def perform (command : Command) (config : Config) (host : σ) : Except RunFault String × σ :=
  match command with
  | .list isJson =>
    match Access.listDevices host with
    | (answer, host) => ((ofUsb answer).map (Report.deviceList isJson), host)
  | .probe target isJson =>
    onTarget target config host fun vendorId productId host =>
      match withInterface vendorId productId Access.pipes host with
      | (answer, host) => (answer.map (Report.pipeTable isJson vendorId productId), host)
  | .control target setup data =>
    onTarget target config host fun vendorId productId host =>
      match dataStage setup data with
      | .error fault => (.error fault, host)
      | .ok buffer =>
        match withInterface vendorId productId (fun interface host =>
          filled (Access.control interface setup buffer host)) host with
        | (answer, host) => (answer.map (Report.controlData setup), host)
  | .read target pipe size =>
    onTarget target config host fun vendorId productId host =>
      let buffer := Bytes.zeros size
      match withInterface vendorId productId (fun interface host =>
        filled (Access.read interface pipe buffer host)) host with
      | (answer, host) => (answer.map fun data => Report.line (Bytes.spaced data), host)
  | .write target pipe data =>
    onTarget target config host fun vendorId productId host =>
      match HexData.read data with
      | .error cause => (.error (.badData cause), host)
      | .ok bytes =>
        match withInterface vendorId productId (fun interface host =>
          Access.write interface pipe bytes host) host with
        | (answer, host) => (answer.map fun () => Report.written pipe bytes, host)
  | .request target setup data =>
    onTarget target config host fun vendorId productId host =>
      match dataStage setup data with
      | .error fault => (.error fault, host)
      | .ok buffer =>
        match withDevice vendorId productId (fun device host =>
          match Access.request device setup buffer host with
          | ((answer, buffer), host) => (answer.map fun () => buffer, host)) host with
        | (answer, host) => (answer.map (Report.requestData setup), host)

end Command

structure World where
  surroundings : Surroundings
  logFilter : Option String := none
  files : FileTree
  bus : Bus

namespace CommandLine

/-- A configuration that is asked for must load; a standard one may be missing or faulty. -/
def loadConfig (line : CommandLine) (world : World) : Except RunFault Config :=
  match line.config with
  | none => .ok (Config.loadOrDefault world.surroundings world.files)
  | some path =>
    match Config.loadExpanded world.surroundings path world.files with
    | .error cause => .error (.loading cause)
    | .ok config => .ok config

def saveDefault (world : World) : Except RunFault String × World :=
  let path := Config.defaultPath world.surroundings
  match Config.save path {} world.files with
  | .error cause => (.error (.saving cause), world)
  | .ok files => (.ok (Report.line ("Configuration saved to: " ++ path)), { world with files })

def runCommand (line : CommandLine) (config : Config) (world : World) :
    Except RunFault String × World :=
  match line.command with
  | none => (.ok (Report.line "No command given, see --help"), world)
  | some command =>
    match world.bus.start with
    | .error cause => (.error (.starting cause), world)
    | .ok () =>
      match command.perform config world.bus with
      | (answer, bus) => (answer, { world with bus })

def run (line : CommandLine) (world : World) : Except RunFault String × World :=
  if line.saveConfig then saveDefault world
  else
    match line.loadConfig world with
    | .error fault => (.error fault, world)
    | .ok config =>
      match LogFilter.choose world.logFilter (line.logLevel.getD config.logLevel) with
      | .error cause => (.error (.logging cause), world)
      | .ok () => line.runCommand config world

end CommandLine

end UsbHost
