import UsbHost.Native.Fault
import UsbHost.Native.Pipe
import UsbHost.Native.Request
import UsbHost.Words.Machine

/-!
Operands: what a word takes off the stack, and why it may not run. The rightmost operand is on top
and is taken first. A cell that is out of range is gone from the stack when the word fails; those
below it are still there.
-/

namespace UsbHost

inductive Argument where
  | productId
  | vendorId
  | length
  | index
  | value
  | request
  | requestType
  | pipe
  | size
deriving DecidableEq

def Argument.name : Argument → String
  | productId => "productId"
  | vendorId => "vendorId"
  | length => "wLength"
  | index => "wIndex"
  | value => "wValue"
  | request => "bRequest"
  | requestType => "bmRequestType"
  | pipe => "pipe"
  | size => "size"

inductive WordFault where
  | stackUnderflow
  | badAddress (address : Cell) (length : Nat)
  | unknownHandle (handle : Cell)
  | invalidArgument (argument : Argument) (value : Cell)
  | usb (failure : Failure)
deriving DecidableEq

/-- Addresses are shown as unsigned hexadecimal numbers of 64 bits. -/
def WordFault.message : WordFault → String
  | stackUnderflow => "Stack underflow"
  | badAddress address length =>
    "Invalid buffer: " ++ toString length ++ " bytes at 0x" ++
      String.ofList (Nat.toDigits 16 address.toUInt64.toNat)
  | unknownHandle handle => "Unknown handle: " ++ toString handle.toInt
  | invalidArgument argument value =>
    "Argument out of range: " ++ argument.name ++ " = " ++ toString value.toInt
  | usb failure => failure.message

abbrev Take (α : Type) := EStateM WordFault (List Cell) α

namespace Take

def cell : Take Cell
  | [] => .error .stackUnderflow []
  | top :: rest => .ok top rest

def upTo (limit : Nat) (argument : Argument) : Take Nat := do
  let value ← cell
  if 0 ≤ value.toInt ∧ value.toInt ≤ limit then return value.toInt.toNat
  else throw (.invalidArgument argument value)

def byte (argument : Argument) : Take UInt8 := return UInt8.ofNat (← upTo 0xff argument)

def half (argument : Argument) : Take UInt16 := return UInt16.ofNat (← upTo 0xffff argument)

def size (argument : Argument) : Take Nat := upTo 0x7fffffffffffffff argument

end Take

structure FindOperands where
  vendorId : UInt16
  productId : UInt16
deriving DecidableEq

def FindOperands.take : Take FindOperands := do
  let productId ← Take.half .productId
  let vendorId ← Take.half .vendorId
  return { vendorId, productId }

structure ControlOperands where
  setup : Setup
  address : Cell
  handle : Cell
deriving DecidableEq

def ControlOperands.take : Take ControlOperands := do
  let handle ← Take.cell
  let address ← Take.cell
  let length ← Take.half .length
  let index ← Take.half .index
  let value ← Take.half .value
  let request ← Take.byte .request
  let requestType ← Take.byte .requestType
  return { setup := { requestType, request, value, index, length }, address, handle }

structure PipeOperands where
  pipe : UInt8
  handle : Cell
deriving DecidableEq

def PipeOperands.take : Take PipeOperands := do
  let handle ← Take.cell
  let pipe ← Take.byte .pipe
  return { pipe, handle }

structure TransferOperands where
  address : Cell
  size : Nat
  pipe : UInt8
  handle : Cell
deriving DecidableEq

def TransferOperands.take : Take TransferOperands := do
  let handle ← Take.cell
  let pipe ← Take.byte .pipe
  let size ← Take.size .size
  let address ← Take.cell
  return { address, size, pipe, handle }

def Pipe.cells (pipe : Pipe) : List Cell :=
  [Int64.ofNat pipe.direction.code, Int64.ofNat pipe.number.toNat, Int64.ofNat pipe.kind.code,
    Int64.ofNat pipe.maxPacketSize.toNat, Int64.ofNat pipe.interval.toNat]

end UsbHost
