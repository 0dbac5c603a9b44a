import UsbHost.Bytes
import UsbHost.Native.Fault
import UsbHost.Native.Pipe
import UsbHost.Native.Request

/-!
A test bench of devices: every native call is recorded in order, any step can be made to fail, and
each device answers with a canned response and a queue of bytes to read.
-/

namespace UsbHost

structure BenchDevice where
  summary : DeviceSummary
  configuration : UInt8 := 1
  interfaces : List UInt8 := [0]
  pipes : PipeTable
  controlResponse : Bytes := []
  readQueue : Bytes := []
deriving DecidableEq

namespace BenchDevice

def plainPipe (direction : Direction) (number : UInt8) (kind : TransferKind) : Pipe where
  direction := direction
  number := number
  kind := kind
  maxPacketSize := 64
  interval := if kind = .interrupt then 10 else 0

def plainPipes : List Pipe := [plainPipe .input 1 .bulk, plainPipe .output 2 .bulk]

def plain (vendorId productId : UInt16) : BenchDevice where
  summary := ⟨1, 1, vendorId, productId⟩
  pipes := ⟨64, plainPipes⟩

def probeVendorId : UInt16 := 0x0483

def probeProductId : UInt16 := 0x5740

def probe : BenchDevice := plain probeVendorId probeProductId

def isMatch (device : BenchDevice) (criteria : Criteria) : Bool :=
  criteria.matchesIds device.summary.vendorId device.summary.productId &&
    match criteria.serviceClass with
    | .device => true
    | .interface =>
      criteria.configurationValue.all (· == device.configuration) &&
        criteria.interfaceNumber.all (device.interfaces.contains ·)

/-- The answer to a control request: canned bytes go over the front of the stage when the data
comes from the device, and the whole stage is taken otherwise. -/
def answerControl (device : BenchDevice) (setup : Setup) (stage : Bytes) : Nat × Bytes :=
  if setup.isInput then
    (min stage.length device.controlResponse.length,
      Bytes.overwrite stage device.controlResponse)
  else (stage.length, stage)

end BenchDevice

inductive BenchCall where
  | matchService (criteria : Criteria)
  | createPlugin (device : Nat) (serviceClass : ServiceClass)
  | queryInterface (device : Nat)
  | queryDevice (device : Nat)
  | releasePlugin (device : Nat)
  | openInterface (device : Nat)
  | closeInterface (device : Nat)
  | releaseInterface (device : Nat)
  | releaseDevice (device : Nat)
  | controlRequest (device : Nat) (setup : Setup) (timeouts : Timeouts)
  | deviceRequest (device : Nat) (setup : Setup)
  | readPipe (device : Nat) (pipe : UInt8) (size : Nat) (timeouts : Timeouts)
  | writePipe (device : Nat) (pipe : UInt8) (data : Bytes) (timeouts : Timeouts)
  | pipeProperties (device : Nat) (pipe : UInt8)
  | pipeCount (device : Nat)
  | listDevices
deriving DecidableEq

structure Bench where
  devices : List BenchDevice := []
  calls : List BenchCall := []
  faults : List (NativeStep × NativeFault) := []
deriving DecidableEq

namespace Bench

def record (call : BenchCall) (bench : Bench) : Bench :=
  { bench with calls := bench.calls ++ [call] }

def fault? (step : NativeStep) (bench : Bench) : Option NativeFault :=
  bench.faults.lookup step

def fail (step : NativeStep) (fault : NativeFault) (bench : Bench) : Bench :=
  { bench with faults := (step, fault) :: bench.faults.filter fun entry => entry.1 != step }

def clearFaults (bench : Bench) : Bench := { bench with faults := [] }

def clearCalls (bench : Bench) : Bench := { bench with calls := [] }

def queue (device : Nat) (data : Bytes) (bench : Bench) : Bench :=
  { bench with
    devices := bench.devices.modify device fun entry =>
      { entry with readQueue := entry.readQueue ++ data } }

def written (bench : Bench) : List (UInt8 × Bytes) :=
  bench.calls.filterMap fun call =>
    match call with
    | .writePipe _ pipe data _ => some (pipe, data)
    | _ => none

def enter (call : BenchCall) (step : NativeStep) (bench : Bench) : Option NativeFault × Bench :=
  (bench.fault? step, bench.record call)

end Bench

end UsbHost
