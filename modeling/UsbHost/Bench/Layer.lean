import UsbHost.Bench.Basic
import UsbHost.Native.Layer

/-!
The bench as a native layer. Each call is recorded first; then the step's fault is returned if one
is set; and only then does the call do its work.
-/

namespace UsbHost

structure BenchPlugin where
  device : Nat
  serviceClass : ServiceClass
deriving DecidableEq

structure BenchInterface where
  device : Nat
  isOpen : Bool
deriving DecidableEq

namespace Bench

def observe {α : Type} (call : BenchCall) (step : NativeStep)
    (answer : Bench → Except NativeFault α) (bench : Bench) : Except NativeFault α × Bench :=
  match bench.enter call step with
  | (some fault, bench) => (.error fault, bench)
  | (none, bench) => (answer bench, bench)

def device? (index : Nat) (bench : Bench) : Except NativeFault BenchDevice :=
  match bench.devices[index]? with
  | some device => .ok device
  | none => .error .noDevice

def pipe? (index : Nat) (pipe : UInt8) (bench : Bench) : Except NativeFault Pipe :=
  match bench.device? index with
  | .error fault => .error fault
  | .ok device =>
    match device.pipes.get? pipe with
    | some found => .ok found
    | none => .error .invalidParameter

def matchService (criteria : Criteria) : Bench → Except NativeFault (Option Nat) × Bench :=
  observe (.matchService criteria) .serviceMatching fun bench =>
    .ok (bench.devices.findIdx? fun device => device.isMatch criteria)

def createPlugin (device : Nat) (serviceClass : ServiceClass) :
    Bench → Except NativeFault BenchPlugin × Bench :=
  observe (.createPlugin device serviceClass) .createPlugin fun _ =>
    .ok ⟨device, serviceClass⟩

def queryInterface (plugin : BenchPlugin) (bench : Bench) :
    (Except NativeFault BenchInterface × BenchPlugin) × Bench :=
  match observe (.queryInterface plugin.device) .queryInterface (fun _ =>
    if plugin.serviceClass = .interface then .ok ⟨plugin.device, false⟩
    else .error .invalidParameter) bench with
  | (answer, bench) => ((answer, plugin), bench)

def queryDevice (plugin : BenchPlugin) (bench : Bench) :
    (Except NativeFault Nat × BenchPlugin) × Bench :=
  match observe (.queryDevice plugin.device) .queryInterface (fun _ =>
    if plugin.serviceClass = .device then .ok plugin.device
    else .error .invalidParameter) bench with
  | (answer, bench) => ((answer, plugin), bench)

def openInterface (interface : BenchInterface) :
    Bench → Except NativeFault BenchInterface × Bench :=
  observe (.openInterface interface.device) .interfaceOpen fun _ =>
    if interface.isOpen then .error .busy else .ok { interface with isOpen := true }

def closeInterface (interface : BenchInterface) :
    Bench → Except NativeFault BenchInterface × Bench :=
  observe (.closeInterface interface.device) .interfaceClose fun _ =>
    if interface.isOpen then .ok { interface with isOpen := false } else .error .invalidParameter

def answerControl (call : BenchCall) (step : NativeStep) (device : Nat) (setup : Setup)
    (stage : Bytes) (bench : Bench) : (Except NativeFault Nat × Bytes) × Bench :=
  match observe call step (fun bench => (bench.device? device).map fun found =>
    found.answerControl setup stage) bench with
  | (.error fault, bench) => ((.error fault, stage), bench)
  | (.ok (count, stage), bench) => ((.ok count, stage), bench)

def readPipe (interface : BenchInterface) (pipe : UInt8) (timeouts : Timeouts) (buffer : Bytes)
    (bench : Bench) : (Except NativeFault Nat × Bytes) × Bench :=
  match bench.enter (.readPipe interface.device pipe buffer.length timeouts) .readPipe with
  | (some fault, bench) => ((.error fault, buffer), bench)
  | (none, bench) =>
    match bench.pipe? interface.device pipe with
    | .error fault => ((.error fault, buffer), bench)
    | .ok found =>
      if found.direction = .input then
        let queued := (bench.devices[interface.device]?.map BenchDevice.readQueue).getD []
        ((.ok (min buffer.length queued.length), Bytes.overwrite buffer queued),
          { bench with
            devices := bench.devices.modify interface.device fun device =>
              { device with readQueue := device.readQueue.drop buffer.length } })
      else ((.error .invalidParameter, buffer), bench)

def writePipe (interface : BenchInterface) (pipe : UInt8) (timeouts : Timeouts) (data : Bytes) :
    Bench → Except NativeFault Unit × Bench :=
  observe (.writePipe interface.device pipe data timeouts) .writePipe fun bench =>
    match bench.pipe? interface.device pipe with
    | .error fault => .error fault
    | .ok found => if found.direction = .output then .ok () else .error .invalidParameter

def pipeCount (interface : BenchInterface) : Bench → Except NativeFault UInt8 × Bench :=
  observe (.pipeCount interface.device) .getPipeCount fun bench =>
    match bench.device? interface.device with
    | .error fault => .error fault
    | .ok device =>
      match device.pipes.count? with
      | some count => .ok count
      | none => .error .overflow

instance : NativeLayer Bench where
  Service := Nat
  Plugin := BenchPlugin
  Interface := BenchInterface
  Device := Nat
  matchService := matchService
  createPlugin := createPlugin
  queryInterface := queryInterface
  queryDevice := queryDevice
  releasePlugin plugin := record (.releasePlugin plugin.device)
  openInterface := openInterface
  closeInterface := closeInterface
  releaseInterface interface := record (.releaseInterface interface.device)
  releaseDevice device := record (.releaseDevice device)
  dropInterface _ := id
  dropDevice _ := id
  controlRequest interface setup timeouts stage :=
    answerControl (.controlRequest interface.device setup timeouts) .controlRequest
      interface.device setup stage
  deviceRequest device setup stage :=
    answerControl (.deviceRequest device setup) .deviceRequest device setup stage
  readPipe := readPipe
  writePipe := writePipe
  pipeProperties interface pipe :=
    observe (.pipeProperties interface.device pipe) .getPipeProperties fun bench =>
      bench.pipe? interface.device pipe
  pipeCount := pipeCount
  listDevices :=
    observe .listDevices .serviceMatching fun bench => .ok (bench.devices.map BenchDevice.summary)

end Bench

end UsbHost
