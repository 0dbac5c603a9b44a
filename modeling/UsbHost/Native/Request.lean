/-!
The ephemeral values of a request: which service to look for, what a listed device is, the setup
stage of a control request, and the two timeouts of a transfer.
-/

namespace UsbHost

inductive ServiceClass where
  | device
  | interface
deriving DecidableEq

structure Criteria where
  serviceClass : ServiceClass
  vendorId : UInt16
  productId : UInt16
  interfaceNumber : Option UInt8 := none
  configurationValue : Option UInt8 := none
deriving DecidableEq

namespace Criteria

def interface (vendorId productId : UInt16) : Criteria where
  serviceClass := .interface
  vendorId := vendorId
  productId := productId
  interfaceNumber := some 0
  configurationValue := some 1

def device (vendorId productId : UInt16) : Criteria where
  serviceClass := .device
  vendorId := vendorId
  productId := productId

def matchesIds (criteria : Criteria) (vendorId productId : UInt16) : Bool :=
  criteria.vendorId == vendorId && criteria.productId == productId

end Criteria

structure DeviceSummary where
  busNumber : UInt8
  address : UInt8
  vendorId : UInt16
  productId : UInt16
deriving DecidableEq

/-- The setup stage of a control request, in the order of its bytes on the bus. -/
structure Setup where
  requestType : UInt8
  request : UInt8
  value : UInt16
  index : UInt16
  length : UInt16
deriving DecidableEq

def Setup.isInput (setup : Setup) : Bool :=
  setup.requestType &&& 0x80 != 0

/-- Milliseconds to wait for the first packet and for the whole transfer. -/
structure Timeouts where
  noData : Nat
  completion : Nat
deriving DecidableEq

namespace Timeouts

def control : Timeouts := ⟨1000, 4000⟩

def pipe : Timeouts := ⟨100, 400⟩

def unlimited : Nat := 0

end Timeouts

end UsbHost
