import UsbHost.Bytes

/-!
The interpreter that runs the words: an operand stack of signed 64-bit cells, top first, and a flat
data memory. A window of memory is granted only where it lies inside as a whole; its bounds are
numbers of 64 bits, and a sum that takes more of them is refused rather than wrapped around.
-/

namespace UsbHost

abbrev Cell := Int64

structure Machine where
  /-- The top of the stack comes first. -/
  stack : List Cell := []
  memory : Bytes := []
deriving DecidableEq

namespace Machine

def ofSize (size : Nat) : Machine where
  memory := Bytes.zeros size

def push (cell : Cell) (machine : Machine) : Machine :=
  { machine with stack := cell :: machine.stack }

/-- Pushes cells in order, so that the last one ends up on top. -/
def pushAll (cells : List Cell) (machine : Machine) : Machine :=
  { machine with stack := cells.reverse ++ machine.stack }

def index? (address : Cell) : Option Nat :=
  if 0 ≤ address.toInt then some address.toInt.toNat else none

/-- The end of a range, where 64 bits can hold it. -/
def end? (start length : Nat) : Option Nat :=
  if start + length < UInt64.size then some (start + length) else none

def slice? (start stop : Nat) (memory : Bytes) : Option Bytes :=
  if start ≤ stop ∧ stop ≤ memory.length then some ((memory.take stop).drop start) else none

def window? (address : Cell) (length : Nat) (machine : Machine) : Option Bytes := do
  let start ← index? address
  let stop ← end? start length
  slice? start stop machine.memory

def isWindow (address : Cell) (length : Nat) (machine : Machine) : Bool :=
  (machine.window? address length).isSome

def store (address : Cell) (data : Bytes) (machine : Machine) : Machine :=
  let start := address.toInt.toNat
  { machine with
    memory := machine.memory.take start ++ data ++ machine.memory.drop (start + data.length) }

end Machine

end UsbHost
