import UsbHost.Bytes
import UsbHost.Native.Pipe
import UsbHost.Native.Request

/-!
A device as the simulated bus knows it: its descriptors, the result codes it is told to return, and
the scripts that its transfers follow one after the other.
-/

namespace UsbHost

structure EndpointDescriptor where
  address : UInt8
  attributes : UInt8
  maxPacketSize : UInt16
  interval : UInt8
deriving DecidableEq

namespace EndpointDescriptor

/-- Only the low three bits of the address count as the endpoint's number. Bit seven is its
direction, and the low two bits of the attributes are the kind of transfer. -/
def toPipe (endpoint : EndpointDescriptor) : Pipe where
  direction := if endpoint.address &&& 0x80 = 0 then .output else .input
  number := endpoint.address &&& 0x07
  kind :=
    match (endpoint.attributes &&& 0x03).toNat with
    | 0 => .control
    | 1 => .isochronous
    | 2 => .bulk
    | _ => .interrupt
  maxPacketSize := endpoint.maxPacketSize
  interval := endpoint.interval

end EndpointDescriptor

structure SettingDescriptor where
  number : UInt8
  endpoints : List EndpointDescriptor
deriving DecidableEq

structure InterfaceDescriptor where
  number : UInt8
  settings : List SettingDescriptor
deriving DecidableEq

/-- The endpoints of the first alternate setting numbered zero. -/
def InterfaceDescriptor.endpoints (interface : InterfaceDescriptor) : List EndpointDescriptor :=
  match interface.settings.find? fun setting => setting.number == 0 with
  | some setting => setting.endpoints
  | none => []

inductive FaultPoint where
  | descriptor
  | activeConfiguration
  | openDevice
  | autoDetach
  | claim
  | release
  | control
  | transfer
deriving DecidableEq

/-- The next transfer of an endpoint, or of the control pipe when there is no endpoint. -/
structure Script where
  endpoint : Option UInt8
  code : Int := 0
  count : Option Int := none
  data : Bytes := []
deriving DecidableEq

structure BusDevice where
  busNumber : UInt8 := 1
  address : UInt8 := 1
  vendorId : UInt16 := 0x0483
  productId : UInt16 := 0x5740
  controlPacketSize : UInt8 := 64
  configuration : UInt8 := 1
  interfaces : List InterfaceDescriptor :=
    [⟨0, [⟨0, [⟨0x81, 2, 64, 0⟩, ⟨0x02, 2, 64, 0⟩]⟩]⟩]
  faults : List (FaultPoint × Int) := []
  scripts : List Script := []
deriving DecidableEq

namespace BusDevice

def code (point : FaultPoint) (device : BusDevice) : Int :=
  (device.faults.lookup point).getD 0

def setCode (point : FaultPoint) (code : Int) (device : BusDevice) : BusDevice :=
  { device with faults := (point, code) :: device.faults.filter fun entry => entry.1 != point }

def addScript (script : Script) (device : BusDevice) : BusDevice :=
  { device with scripts := device.scripts ++ [script] }

def summary (device : BusDevice) : DeviceSummary :=
  ⟨device.busNumber, device.address, device.vendorId, device.productId⟩

def hasInterface (number : UInt8) (device : BusDevice) : Bool :=
  device.interfaces.any fun interface => interface.number == number

def hasEndpoint (address : UInt8) (device : BusDevice) : Bool :=
  device.interfaces.any fun interface => interface.settings.any fun setting =>
    setting.endpoints.any fun endpoint => endpoint.address == address

def takeScript (endpoint : Option UInt8) (device : BusDevice) : Option Script × BusDevice :=
  let isNext (script : Script) := script.endpoint == endpoint
  (device.scripts.find? isNext, { device with scripts := device.scripts.eraseP isNext })

/-- A device without a readable descriptor is never matched; an interface is looked for in the
active configuration alone, since no other exists on the bus. -/
def isMatch (criteria : Criteria) (device : BusDevice) : Bool :=
  device.code .descriptor == 0 && criteria.matchesIds device.vendorId device.productId &&
    match criteria.serviceClass with
    | .device => true
    | .interface =>
      device.code .activeConfiguration == 0 &&
        criteria.configurationValue.all (· == device.configuration) &&
        criteria.interfaceNumber.all fun number => device.hasInterface number

end BusDevice

end UsbHost
