/-!
Pipes: one end of the traffic with a device, with the codes that the bus and the operand stack use
for them, and the table of the pipes of an interface. Pipe zero is always the control pipe.
-/

namespace UsbHost

inductive Direction where
  | output
  | input
  | neither
  | either
deriving DecidableEq

namespace Direction

def all : List Direction := [output, input, neither, either]

def code : Direction → Nat
  | output => 0
  | input => 1
  | neither => 2
  | either => 3

def name : Direction → String
  | output => "out"
  | input => "in"
  | neither => "none"
  | either => "any"

def title : Direction → String
  | output => "Out"
  | input => "In"
  | neither => "None"
  | either => "Any"

end Direction

inductive TransferKind where
  | control
  | isochronous
  | bulk
  | interrupt
deriving DecidableEq

namespace TransferKind

def all : List TransferKind := [control, isochronous, bulk, interrupt]

def code : TransferKind → Nat
  | control => 0
  | isochronous => 1
  | bulk => 2
  | interrupt => 3

def name : TransferKind → String
  | control => "control"
  | isochronous => "isochronous"
  | bulk => "bulk"
  | interrupt => "interrupt"

def title : TransferKind → String
  | control => "Control"
  | isochronous => "Isochronous"
  | bulk => "Bulk"
  | interrupt => "Interrupt"

end TransferKind

structure Pipe where
  direction : Direction
  /-- The endpoint number, without the direction bit. -/
  number : UInt8
  kind : TransferKind
  maxPacketSize : UInt16
  interval : UInt8
deriving DecidableEq

namespace Pipe

def control (maxPacketSize : UInt16) : Pipe where
  direction := .either
  number := 0
  kind := .control
  maxPacketSize := maxPacketSize
  interval := 0

/-- The address on the bus, where bit seven says that data comes in. -/
def endpointAddress (pipe : Pipe) : UInt8 :=
  match pipe.direction with
  | .input => pipe.number ||| 0x80
  | _ => pipe.number

def describe (pipe : Pipe) : String :=
  "PipeProperties \x7b direction: " ++ pipe.direction.title ++
    ", number: " ++ toString pipe.number.toNat ++
    ", transfer_type: " ++ pipe.kind.title ++
    ", max_packet_size: " ++ toString pipe.maxPacketSize.toNat ++
    ", interval: " ++ toString pipe.interval.toNat ++ " \x7d"

end Pipe

structure PipeTable where
  controlPacketSize : UInt16
  endpoints : List Pipe
deriving DecidableEq

namespace PipeTable

/-- Pipe zero is the control pipe; the endpoints count from one. -/
def get? (table : PipeTable) (pipe : UInt8) : Option Pipe :=
  if pipe = 0 then some (Pipe.control table.controlPacketSize)
  else table.endpoints[pipe.toNat - 1]?

def count? (table : PipeTable) : Option UInt8 :=
  if table.endpoints.length < 256 then some (UInt8.ofNat table.endpoints.length) else none

end PipeTable

end UsbHost
