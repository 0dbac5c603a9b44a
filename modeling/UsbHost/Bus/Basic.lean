import UsbHost.Bus.Call
import UsbHost.Bus.Code
import UsbHost.Bus.Device

/-!
The simulated bus: devices, the handles that are open on them, and which handle has claimed which
interface. A call is logged before it does anything. Giving up a handle first releases what it
still claims, whatever that answers, and then closes it.
-/

namespace UsbHost

/-- An open handle; the number tells handles on one device apart. -/
structure BusHandle where
  number : Nat
  device : Nat
deriving DecidableEq

structure Claim where
  device : Nat
  interface : UInt8
  handle : Nat
deriving DecidableEq

structure Bus where
  devices : List BusDevice := []
  startCode : Int := 0
  /-- What listing the devices returns, when it is negative. -/
  listCode : Int := 0
  handles : List BusHandle := []
  claims : List Claim := []
  nextHandle : Nat := 0
  calls : List BusCall := []
deriving DecidableEq

namespace Bus

def start (bus : Bus) : Except NativeFault Unit :=
  match BusFault.check bus.startCode with
  | .ok () => .ok ()
  | .error fault => .error fault.toNative

def record (call : BusCall) (bus : Bus) : Bus :=
  { bus with calls := bus.calls ++ [call] }

def modifyDevice (device : Nat) (change : BusDevice → BusDevice) (bus : Bus) : Bus :=
  { bus with devices := bus.devices.modify device change }

def codeAt (device : Nat) (point : FaultPoint) (bus : Bus) : Int :=
  match bus.devices[device]? with
  | some found => found.code point
  | none => -4

def attached (bus : Bus) : Except BusFault (List BusDevice) :=
  if bus.listCode < 0 then .error (BusFault.ofCode bus.listCode) else .ok bus.devices

def openDevice (device : Nat) (bus : Bus) : Except BusFault BusHandle × Bus :=
  let bus := bus.record (.openDevice device)
  match BusFault.check (bus.codeAt device .openDevice) with
  | .error fault => (.error fault, bus)
  | .ok () =>
    let handle : BusHandle := ⟨bus.nextHandle, device⟩
    (.ok handle,
      { bus with handles := bus.handles ++ [handle], nextHandle := bus.nextHandle + 1 })

/-- Drops the handle together with every claim that it made. -/
def closeDevice (handle : BusHandle) (bus : Bus) : Bus :=
  let bus := bus.record (.closeDevice handle.device)
  { bus with
    handles := bus.handles.filter fun other => other.number != handle.number
    claims := bus.claims.filter fun claim => claim.handle != handle.number }

def autoDetach (handle : BusHandle) (bus : Bus) : Except BusFault Unit × Bus :=
  let bus := bus.record (.autoDetach handle.device)
  (BusFault.check (bus.codeAt handle.device .autoDetach), bus)

def holder? (device : Nat) (interface : UInt8) (bus : Bus) : Option Nat :=
  (bus.claims.find? fun claim => claim.device == device && claim.interface == interface).map
    Claim.handle

/-- An interface is held by one handle at a time; claiming it again with the same handle changes
nothing. -/
def claim (handle : BusHandle) (interface : UInt8) (bus : Bus) : Except BusFault Unit × Bus :=
  let bus := bus.record (.claim handle.device interface)
  match BusFault.check (bus.codeAt handle.device .claim) with
  | .error fault => (.error fault, bus)
  | .ok () =>
    if !bus.devices[handle.device]?.any (BusDevice.hasInterface interface) then
      (.error .notFound, bus)
    else
      match bus.holder? handle.device interface with
      | some holder => (if holder = handle.number then .ok () else .error .busy, bus)
      | none =>
        (.ok (),
          { bus with claims := bus.claims ++ [⟨handle.device, interface, handle.number⟩] })

def release (handle : BusHandle) (interface : UInt8) (bus : Bus) : Except BusFault Unit × Bus :=
  let bus := bus.record (.release handle.device interface)
  match BusFault.check (bus.codeAt handle.device .release) with
  | .error fault => (.error fault, bus)
  | .ok () =>
    if bus.holder? handle.device interface = some handle.number then
      (.ok (),
        { bus with
          claims := bus.claims.filter (· != ⟨handle.device, interface, handle.number⟩) })
    else (.error .notFound, bus)

/-- Gives up a handle, with the interface that it is known to have claimed. -/
def giveUp (handle : BusHandle) (claimed : Option UInt8) (bus : Bus) : Bus :=
  match claimed with
  | none => bus.closeDevice handle
  | some interface => (bus.release handle interface).2.closeDevice handle

end Bus

end UsbHost
