import UsbHost.Bytes
import UsbHost.Native.Fault
import UsbHost.Native.Pipe
import UsbHost.Native.Request

/-!
The native layer: one function for each step that the host's USB stack takes, over whatever state
that stack keeps. A step answers first and leaves the next state behind. Discovery goes from a
matched service through a plugin to an interface or a device; the plugin is given back whatever the
query answered. An interface is opened before use, and closed and then released after it.
-/

namespace UsbHost

class NativeLayer (σ : Type) where
  Service : Type
  /-- The intermediate object between a service and what is asked of it. -/
  Plugin : Type
  Interface : Type
  Device : Type
  matchService : Criteria → σ → Except NativeFault (Option Service) × σ
  createPlugin : Service → ServiceClass → σ → Except NativeFault Plugin × σ
  queryInterface : Plugin → σ → (Except NativeFault Interface × Plugin) × σ
  queryDevice : Plugin → σ → (Except NativeFault Device × Plugin) × σ
  releasePlugin : Plugin → σ → σ
  /-- The opened interface; one that cannot be opened stays as it was. -/
  openInterface : Interface → σ → Except NativeFault Interface × σ
  closeInterface : Interface → σ → Except NativeFault Interface × σ
  releaseInterface : Interface → σ → σ
  releaseDevice : Device → σ → σ
  /-- What becomes of an interface that nobody keeps any more and nobody has released. -/
  dropInterface : Interface → σ → σ
  dropDevice : Device → σ → σ
  /-- A control request on the default pipe. The bytes are exactly the data stage, and come back as
  the transfer left them, also when it failed. -/
  controlRequest : Interface → Setup → Timeouts → Bytes → σ → (Except NativeFault Nat × Bytes) × σ
  deviceRequest : Device → Setup → Bytes → σ → (Except NativeFault Nat × Bytes) × σ
  readPipe : Interface → UInt8 → Timeouts → Bytes → σ → (Except NativeFault Nat × Bytes) × σ
  /-- Success means that every byte was accepted. -/
  writePipe : Interface → UInt8 → Timeouts → Bytes → σ → Except NativeFault Unit × σ
  pipeProperties : Interface → UInt8 → σ → Except NativeFault Pipe × σ
  pipeCount : Interface → σ → Except NativeFault UInt8 × σ
  listDevices : σ → Except NativeFault (List DeviceSummary) × σ

end UsbHost
