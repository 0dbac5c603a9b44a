import UsbHost.Native.Fault

/-!
Result codes of the bus library. Zero is success and everything else a fault; the codes that the
native layer does not know by name keep only their text.
-/

namespace UsbHost

inductive BusFault where
  | io
  | invalidParameter
  | access
  | noDevice
  | notFound
  | busy
  | timeout
  | overflow
  | pipe
  | interrupted
  | noMemory
  | notSupported
  | badDescriptor
  | other
deriving DecidableEq

namespace BusFault

def all : List BusFault :=
  [io, invalidParameter, access, noDevice, notFound, busy, timeout, overflow, pipe, interrupted,
    noMemory, notSupported, badDescriptor, other]

def label : BusFault → String
  | io => "Io"
  | invalidParameter => "InvalidParam"
  | access => "Access"
  | noDevice => "NoDevice"
  | notFound => "NotFound"
  | busy => "Busy"
  | timeout => "Timeout"
  | overflow => "Overflow"
  | pipe => "Pipe"
  | interrupted => "Interrupted"
  | noMemory => "NoMem"
  | notSupported => "NotSupported"
  | badDescriptor => "BadDescriptor"
  | other => "Other"

def ofCode : Int → BusFault
  | -1 => io
  | -2 => invalidParameter
  | -3 => access
  | -4 => noDevice
  | -5 => notFound
  | -6 => busy
  | -7 => timeout
  | -8 => overflow
  | -9 => pipe
  | -10 => interrupted
  | -11 => noMemory
  | -12 => notSupported
  | _ => other

def check (code : Int) : Except BusFault Unit :=
  if code = 0 then .ok () else .error (ofCode code)

def toNative : BusFault → NativeFault
  | io => .io
  | invalidParameter => .invalidParameter
  | access => .access
  | noDevice => .noDevice
  | notFound => .notFound
  | busy => .busy
  | timeout => .timeout
  | overflow => .overflow
  | pipe => .pipe
  | interrupted => .other "System call interrupted (perhaps due to signal)"
  | noMemory => .other "Insufficient memory"
  | notSupported => .other "Operation not supported or unimplemented on this platform"
  | badDescriptor => .other "Malformed descriptor"
  | other => .other "Other error"

end BusFault

end UsbHost
