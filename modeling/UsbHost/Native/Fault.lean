import UsbHost.Text.Quoted

/-!
What the host's USB stack reports when something goes wrong, the native step that was under way,
and the failure that an operation hands back: the step, with the cause kept beside it. Finding
nothing is never a failure.
-/

namespace UsbHost

inductive NativeFault where
  | timeout
  | pipe
  | noDevice
  | notFound
  | busy
  | overflow
  | io
  | invalidParameter
  | access
  | other (message : String)
deriving DecidableEq

namespace NativeFault

def message : NativeFault → String
  | timeout => "operation timed out"
  | pipe => "pipe error"
  | noDevice => "no such device"
  | notFound => "entity not found"
  | busy => "resource busy"
  | overflow => "overflow"
  | io => "input/output error"
  | invalidParameter => "invalid parameter"
  | access => "access denied"
  | other message => message

def label : NativeFault → String
  | timeout => "Timeout"
  | pipe => "Pipe"
  | noDevice => "NoDevice"
  | notFound => "NotFound"
  | busy => "Busy"
  | overflow => "Overflow"
  | io => "Io"
  | invalidParameter => "InvalidParam"
  | access => "Access"
  | other _ => "Other"

def describe : NativeFault → String
  | other message => "Other \x7b message: " ++ Quoted.write message ++ " \x7d"
  | fault => fault.label

def named : List NativeFault :=
  [timeout, pipe, noDevice, notFound, busy, overflow, io, invalidParameter, access]

end NativeFault

inductive NativeStep where
  | serviceMatching
  | createPlugin
  | queryInterface
  | interfaceOpen
  | interfaceClose
  | controlRequest
  | deviceRequest
  | readPipe
  | writePipe
  | getPipeProperties
  | getPipeCount
deriving DecidableEq

namespace NativeStep

def all : List NativeStep :=
  [serviceMatching, createPlugin, queryInterface, interfaceOpen, interfaceClose, controlRequest,
    deviceRequest, readPipe, writePipe, getPipeProperties, getPipeCount]

def message : NativeStep → String
  | serviceMatching => "service matching failed"
  | createPlugin => "plugin creation failed"
  | queryInterface => "interface query failed"
  | interfaceOpen => "interface open failed"
  | interfaceClose => "interface close failed"
  | controlRequest => "control request failed"
  | deviceRequest => "device request failed"
  | readPipe => "pipe read failed"
  | writePipe => "pipe write failed"
  | getPipeProperties => "pipe properties query failed"
  | getPipeCount => "pipe count query failed"

def label : NativeStep → String
  | serviceMatching => "ServiceMatching"
  | createPlugin => "CreatePlugin"
  | queryInterface => "QueryInterface"
  | interfaceOpen => "InterfaceOpen"
  | interfaceClose => "InterfaceClose"
  | controlRequest => "ControlRequest"
  | deviceRequest => "DeviceRequest"
  | readPipe => "ReadPipe"
  | writePipe => "WritePipe"
  | getPipeProperties => "GetPipeProperties"
  | getPipeCount => "GetPipeCount"

end NativeStep

inductive Failure where
  | native (step : NativeStep) (cause : NativeFault)
  | bufferTooSmall (needed available : Nat)
deriving DecidableEq

namespace Failure

/-- A native failure is told by its step alone; the cause is a line of its own. -/
def message : Failure → String
  | native step _ => step.message
  | bufferTooSmall needed available =>
    "Buffer too small: needed " ++ toString needed ++ ", got " ++ toString available

def step? : Failure → Option NativeStep
  | native step _ => some step
  | bufferTooSmall _ _ => none

def cause? : Failure → Option NativeFault
  | native _ cause => some cause
  | bufferTooSmall _ _ => none

def chain (failure : Failure) : List String :=
  failure.message :: (failure.cause?.map NativeFault.message).toList

end Failure

inductive Trouble where
  | usb (failure : Failure)
  | configuration (text : String)
  | io (text : String)
deriving DecidableEq

namespace Trouble

def message : Trouble → String
  | usb failure => "USB error: " ++ failure.message
  | configuration text => "Configuration error: " ++ text
  | io text => "IO error: " ++ text

def source? : Trouble → Option String
  | usb failure => some failure.message
  | configuration _ => none
  | io text => some text

end Trouble

end UsbHost
