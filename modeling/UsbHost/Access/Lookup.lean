import UsbHost.Native.Layer

/-!
Finding and giving back: lookups resolve a service through a plugin, and a handle belongs to the
caller from the lookup until it is closed. A native fault ends the operation with the failing step;
nothing is tried again. Finding nothing is an answer.
-/

namespace UsbHost.Access

variable {σ : Type} [NativeLayer σ]

def atStep {α : Type} (step : NativeStep) : Except NativeFault α → Except Failure α
  | .ok value => .ok value
  | .error cause => .error (.native step cause)

def listDevices (host : σ) : Except Failure (List DeviceSummary) × σ :=
  match NativeLayer.listDevices host with
  | (answer, host) => (atStep .serviceMatching answer, host)

/-- Matches a service and queries its plugin. The plugin is released before the query's answer is
looked at, so a failed query keeps nothing. -/
def resolve {α : Type} (criteria : Criteria)
    (query : NativeLayer.Plugin σ → σ → (Except NativeFault α × NativeLayer.Plugin σ) × σ)
    (host : σ) : Except Failure (Option α) × σ :=
  match NativeLayer.matchService criteria host with
  | (.error cause, host) => (.error (.native .serviceMatching cause), host)
  | (.ok none, host) => (.ok none, host)
  | (.ok (some service), host) =>
    match NativeLayer.createPlugin service criteria.serviceClass host with
    | (.error cause, host) => (.error (.native .createPlugin cause), host)
    | (.ok plugin, host) =>
      match query plugin host with
      | ((answer, plugin), host) =>
        let host := NativeLayer.releasePlugin plugin host
        match answer with
        | .error cause => (.error (.native .queryInterface cause), host)
        | .ok found => (.ok (some found), host)

def findInterface (vendorId productId : UInt16) (host : σ) :
    Except Failure (Option (NativeLayer.Interface σ)) × σ :=
  match resolve (.interface vendorId productId) NativeLayer.queryInterface host with
  | (.error failure, host) => (.error failure, host)
  | (.ok none, host) => (.ok none, host)
  | (.ok (some interface), host) =>
    match NativeLayer.openInterface interface host with
    | (.ok opened, host) => (.ok (some opened), host)
    | (.error cause, host) =>
      (.error (.native .interfaceOpen cause), NativeLayer.releaseInterface interface host)

/-- Closes an interface and then releases it. When the close fails nothing is released, and the
caller may try again with the same handle. -/
def closeInterface (interface : NativeLayer.Interface σ) (host : σ) : Except Failure Unit × σ :=
  match NativeLayer.closeInterface interface host with
  | (.error cause, host) => (.error (.native .interfaceClose cause), host)
  | (.ok closed, host) => (.ok (), NativeLayer.releaseInterface closed host)

def findDevice (vendorId productId : UInt16) (host : σ) :
    Except Failure (Option (NativeLayer.Device σ)) × σ :=
  resolve (.device vendorId productId) NativeLayer.queryDevice host

def closeDevice (device : NativeLayer.Device σ) (host : σ) : σ :=
  NativeLayer.releaseDevice device host

def describe (_interface : NativeLayer.Interface σ) : String := "InterfaceHandle \x7b .. \x7d"

end UsbHost.Access
