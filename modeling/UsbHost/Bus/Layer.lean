import UsbHost.Bus.Transfer
import UsbHost.Native.Layer

/-!
The bus as a native layer. A plugin is an opened handle; the query hands it over to the interface or
the device that was asked for, and gives it up when that fails. Opening an interface claims it, and
closing it gives the claim back.
-/

namespace UsbHost

structure BusService where
  device : Nat
  criteria : Criteria
deriving DecidableEq

structure BusPlugin where
  device : Nat
  criteria : Criteria
  serviceClass : ServiceClass
  handle : Option BusHandle
deriving DecidableEq

structure BusInterface where
  handle : BusHandle
  number : UInt8
  pipes : PipeTable
  isClaimed : Bool
deriving DecidableEq

namespace Bus

def native {α : Type} : Except BusFault α → Except NativeFault α
  | .ok value => .ok value
  | .error fault => .error fault.toNative

def matchService (criteria : Criteria) (bus : Bus) :
    Except NativeFault (Option BusService) × Bus :=
  match native bus.attached with
  | .error fault => (.error fault, bus)
  | .ok devices =>
    (.ok ((devices.findIdx? (BusDevice.isMatch criteria)).map fun device => ⟨device, criteria⟩),
      bus)

def createPlugin (service : BusService) (serviceClass : ServiceClass) (bus : Bus) :
    Except NativeFault BusPlugin × Bus :=
  match bus.openDevice service.device with
  | (.error fault, bus) => (.error fault.toNative, bus)
  | (.ok handle, bus) =>
    (.ok ⟨service.device, service.criteria, serviceClass, some handle⟩, bus)

def takeHandle (wanted : ServiceClass) (plugin : BusPlugin) :
    Except NativeFault BusHandle × BusPlugin :=
  if plugin.serviceClass ≠ wanted then (.error .invalidParameter, plugin)
  else
    match plugin.handle with
    | none => (.error .notFound, plugin)
    | some handle => (.ok handle, { plugin with handle := none })

def readInterface (device : Nat) (number : UInt8) (handle : BusHandle) (bus : Bus) :
    Except NativeFault BusInterface :=
  match native (BusFault.check (bus.codeAt device .descriptor)),
      native (BusFault.check (bus.codeAt device .activeConfiguration)), bus.devices[device]? with
  | .error fault, _, _ => .error fault
  | .ok (), .error fault, _ => .error fault
  | .ok (), .ok (), none => .error .noDevice
  | .ok (), .ok (), some found =>
    match found.interfaces.find? fun interface => interface.number == number with
    | none => .error .notFound
    | some interface =>
      .ok {
        handle := handle
        number := number
        pipes := ⟨found.controlPacketSize.toUInt16,
          interface.endpoints.map EndpointDescriptor.toPipe⟩
        isClaimed := false }

def queryInterface (plugin : BusPlugin) (bus : Bus) :
    (Except NativeFault BusInterface × BusPlugin) × Bus :=
  match takeHandle .interface plugin with
  | (.error fault, plugin) => ((.error fault, plugin), bus)
  | (.ok handle, plugin) =>
    match bus.readInterface plugin.device (plugin.criteria.interfaceNumber.getD 0) handle with
    | .error fault => ((.error fault, plugin), bus.giveUp handle none)
    | .ok interface => ((.ok interface, plugin), bus)

def queryDevice (plugin : BusPlugin) (bus : Bus) :
    (Except NativeFault BusHandle × BusPlugin) × Bus :=
  (takeHandle .device plugin, bus)

def releasePlugin (plugin : BusPlugin) (bus : Bus) : Bus :=
  match plugin.handle with
  | none => bus
  | some handle => bus.giveUp handle none

/-- Claims the interface. Where a kernel driver cannot be detached at all, the claim is tried
anyway. -/
def openInterface (interface : BusInterface) (bus : Bus) :
    Except NativeFault BusInterface × Bus :=
  match bus.autoDetach interface.handle with
  | (detached, bus) =>
    match detached with
    | .ok () | .error .notSupported =>
      match bus.claim interface.handle interface.number with
      | (.error fault, bus) => (.error fault.toNative, bus)
      | (.ok (), bus) => (.ok { interface with isClaimed := true }, bus)
    | .error fault => (.error fault.toNative, bus)

def closeInterface (interface : BusInterface) (bus : Bus) :
    Except NativeFault BusInterface × Bus :=
  if interface.isClaimed then
    match bus.release interface.handle interface.number with
    | (.error fault, bus) => (.error fault.toNative, bus)
    | (.ok (), bus) => (.ok { interface with isClaimed := false }, bus)
  else (.error .invalidParameter, bus)

def releaseInterface (interface : BusInterface) (bus : Bus) : Bus :=
  bus.giveUp interface.handle (if interface.isClaimed then some interface.number else none)

def controlOn (handle : BusHandle) (setup : Setup) (timeout : Nat) (stage : Bytes) (bus : Bus) :
    (Except NativeFault Nat × Bytes) × Bus :=
  match bus.control handle setup timeout stage with
  | ((answer, stage), bus) => ((native answer, stage), bus)

def modeOf? : TransferKind → Option TransferMode
  | .bulk => some .bulk
  | .interrupt => some .interrupt
  | .control | .isochronous => none

def route (interface : BusInterface) (pipe : UInt8) (direction : Direction) :
    Except NativeFault (TransferMode × UInt8) :=
  match interface.pipes.get? pipe with
  | none => .error .invalidParameter
  | some found =>
    if found.direction ≠ direction then .error .invalidParameter
    else
      match modeOf? found.kind with
      | none => .error .invalidParameter
      | some mode => .ok (mode, found.endpointAddress)

def readPipe (interface : BusInterface) (pipe : UInt8) (timeouts : Timeouts) (buffer : Bytes)
    (bus : Bus) : (Except NativeFault Nat × Bytes) × Bus :=
  match route interface pipe .input with
  | .error fault => ((.error fault, buffer), bus)
  | .ok (mode, endpoint) =>
    match bus.transfer mode interface.handle endpoint timeouts.completion buffer with
    | ((answer, data), bus) => ((native answer, data), bus)

def writePipe (interface : BusInterface) (pipe : UInt8) (timeouts : Timeouts) (data : Bytes)
    (bus : Bus) : Except NativeFault Unit × Bus :=
  match route interface pipe .output with
  | .error fault => (.error fault, bus)
  | .ok (mode, endpoint) =>
    match bus.transfer mode interface.handle endpoint timeouts.completion data with
    | ((.error fault, _), bus) => (.error fault.toNative, bus)
    | ((.ok count, _), bus) => (if count = data.length then .ok () else .error .io, bus)

def pipeProperties (interface : BusInterface) (pipe : UInt8) (bus : Bus) :
    Except NativeFault Pipe × Bus :=
  match interface.pipes.get? pipe with
  | some found => (.ok found, bus)
  | none => (.error .invalidParameter, bus)

def pipeCount (interface : BusInterface) (bus : Bus) : Except NativeFault UInt8 × Bus :=
  match interface.pipes.count? with
  | some count => (.ok count, bus)
  | none => (.error .overflow, bus)

/-- Devices whose descriptor cannot be read are left out of the list. -/
def listDevices (bus : Bus) : Except NativeFault (List DeviceSummary) × Bus :=
  match native bus.attached with
  | .error fault => (.error fault, bus)
  | .ok devices =>
    (.ok ((devices.filter fun device => device.code .descriptor == 0).map BusDevice.summary), bus)

instance : NativeLayer Bus where
  Service := BusService
  Plugin := BusPlugin
  Interface := BusInterface
  Device := BusHandle
  matchService := matchService
  createPlugin := createPlugin
  queryInterface := queryInterface
  queryDevice := queryDevice
  releasePlugin := releasePlugin
  openInterface := openInterface
  closeInterface := closeInterface
  releaseInterface := releaseInterface
  releaseDevice handle bus := bus.giveUp handle none
  dropInterface := releaseInterface
  dropDevice handle bus := bus.giveUp handle none
  controlRequest interface setup timeouts stage :=
    controlOn interface.handle setup timeouts.completion stage
  deviceRequest handle setup stage := controlOn handle setup Timeouts.unlimited stage
  readPipe := readPipe
  writePipe := writePipe
  pipeProperties := pipeProperties
  pipeCount := pipeCount
  listDevices := listDevices

end Bus

end UsbHost
