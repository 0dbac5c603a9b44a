import UsbHost.Bytes
import UsbHost.Native.Request

/-!
The calls that the bus library logs, each with its line of text. Numbers are decimal; the data of an
outgoing transfer is shown when there is any.
-/

namespace UsbHost

inductive TransferMode where
  | bulk
  | interrupt
deriving DecidableEq

def TransferMode.name : TransferMode → String
  | bulk => "bulk"
  | interrupt => "interrupt"

inductive BusCall where
  | openDevice (device : Nat)
  | closeDevice (device : Nat)
  | autoDetach (device : Nat)
  | claim (device : Nat) (interface : UInt8)
  | release (device : Nat) (interface : UInt8)
  | control (device : Nat) (setup : Setup) (length timeout : Nat) (sent : Bytes)
  | transfer (mode : TransferMode) (device : Nat) (endpoint : UInt8) (length : Int)
      (timeout : Nat) (sent : Bytes)
deriving DecidableEq

namespace BusCall

def sentText (sent : Bytes) : String :=
  if sent.isEmpty then "" else " data=" ++ Bytes.packed sent

def text : BusCall → String
  | openDevice device => "open " ++ toString device
  | closeDevice device => "close " ++ toString device
  | autoDetach device => "auto_detach " ++ toString device ++ " 1"
  | claim device interface => "claim " ++ toString device ++ " if=" ++ toString interface.toNat
  | release device interface => "release " ++ toString device ++ " if=" ++ toString interface.toNat
  | control device setup length timeout sent =>
    "control " ++ toString device ++ " type=" ++ toString setup.requestType.toNat ++
      " req=" ++ toString setup.request.toNat ++ " value=" ++ toString setup.value.toNat ++
      " index=" ++ toString setup.index.toNat ++ " len=" ++ toString length ++
      " timeout=" ++ toString timeout ++ sentText sent
  | transfer mode device endpoint length timeout sent =>
    mode.name ++ " " ++ toString device ++ " ep=" ++ toString endpoint.toNat ++
      " len=" ++ toString length ++ " timeout=" ++ toString timeout ++ sentText sent

end BusCall

end UsbHost
