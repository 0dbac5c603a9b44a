import UsbHost.Bus.Basic

/-!
Transfers on the simulated bus. A transfer follows the next script of its endpoint; without a script
the device does what is natural: it sends nothing, times out, or takes every byte. Timeouts are cut
to 32 bits, the length of a control request to 16, and that of any other transfer to a signed number
of 32, as the bus library's own fields are.
-/

namespace UsbHost.Bus

def timeoutField (milliseconds : Nat) : Nat := milliseconds % 0x100000000

def lengthField (length : Nat) : Nat := length % 0x10000

def sizeField (length : Nat) : Int := (Int32.ofNat length).toInt

/-- A count that the library reports as a signed number, read as an unsigned one. -/
def countOfReport (count : Int) : Nat := (count % 0x10000000000000000).toNat

def takeScript (device : Nat) (endpoint : Option UInt8) (bus : Bus) : Option Script × Bus :=
  match bus.devices[device]? with
  | none => (none, bus)
  | some found =>
    match found.takeScript endpoint with
    | (script, rest) => (script, bus.modifyDevice device fun _ => rest)

/-- What a control request returns and the data stage that it leaves. A script that fails sends
nothing. -/
def controlReply (fault : Int) (isInput : Bool) (stage : Bytes) : Option Script → Int × Bytes
  | none =>
    if fault ≠ 0 then (fault, stage)
    else if isInput then (0, stage)
    else (stage.length, stage)
  | some script =>
    if script.code ≠ 0 then (script.code, stage)
    else if isInput then
      (script.count.getD (min stage.length script.data.length : Nat),
        Bytes.overwrite stage script.data)
    else (script.count.getD stage.length, stage)

def control (handle : BusHandle) (setup : Setup) (timeout : Nat) (data : Bytes) (bus : Bus) :
    (Except BusFault Nat × Bytes) × Bus :=
  let length := lengthField data.length
  let stage := data.take length
  let bus := bus.record (.control handle.device setup length (timeoutField timeout)
    (if setup.isInput then [] else stage))
  let fault := bus.codeAt handle.device .control
  match bus.takeScript handle.device none with
  | (script, bus) =>
    match controlReply fault setup.isInput stage script with
    | (result, stage) =>
      ((if result < 0 then .error (BusFault.ofCode result) else .ok result.toNat,
        stage ++ data.drop length), bus)

structure TransferReply where
  code : Int
  count : Int
  data : Bytes
deriving DecidableEq

def transferReply (fault : Int) (isInput : Bool) (data : Bytes) : Option Script → TransferReply
  | none =>
    if fault ≠ 0 then ⟨fault, 0, data⟩
    else if isInput then ⟨-7, 0, data⟩
    else ⟨0, data.length, data⟩
  | some script =>
    if isInput then
      ⟨script.code, script.count.getD (min data.length script.data.length : Nat),
        Bytes.overwrite data script.data⟩
    else ⟨script.code, script.count.getD data.length, data⟩

/-- The codes after which a count above zero still makes the transfer a success. -/
def isPartial (mode : TransferMode) (code : Int) : Bool :=
  match mode with
  | .bulk => code == -7 || code == -10
  | .interrupt => code == -10

def TransferReply.outcome (mode : TransferMode) (reply : TransferReply) : Except BusFault Nat :=
  if reply.code = 0 ∨ (isPartial mode reply.code ∧ 0 < reply.count) then
    .ok (countOfReport reply.count)
  else .error (BusFault.ofCode reply.code)

def transfer (mode : TransferMode) (handle : BusHandle) (endpoint : UInt8) (timeout : Nat)
    (data : Bytes) (bus : Bus) : (Except BusFault Nat × Bytes) × Bus :=
  let isInput := endpoint &&& 0x80 != 0
  let size := sizeField data.length
  -- The library sees as much of the data as its own count says.
  let stage := data.take size.toNat
  let bus := bus.record (.transfer mode handle.device endpoint size (timeoutField timeout)
    (if isInput then [] else stage))
  if !bus.devices[handle.device]?.any (BusDevice.hasEndpoint endpoint) then
    ((.error .notFound, data), bus)
  else
    let fault := bus.codeAt handle.device .transfer
    match bus.takeScript handle.device (some endpoint) with
    | (script, bus) =>
      let reply := transferReply fault isInput stage script
      ((reply.outcome mode, reply.data ++ data.drop size.toNat), bus)

end UsbHost.Bus
