import UsbHost.Access.Transfer
import UsbHost.Words.HandleTable
import UsbHost.Words.Operands
import UsbHost.Words.Word

/-!
Running words over a native layer. A word takes its operands, looks up its handle, asks for its
window of memory, makes its call, and pushes what it found, in this order. Lookups push a handle and
minus one, or a single zero. A close takes its entry out first, and puts it back under the same
handle when the interface does not close, so that it can be tried again.
-/

namespace UsbHost

structure Session (σ : Type) [NativeLayer σ] where
  host : σ
  machine : Machine := {}
  interfaces : HandleTable (NativeLayer.Interface σ) := {}
  devices : HandleTable (NativeLayer.Device σ) := {}

namespace Session

variable {σ : Type} [NativeLayer σ]

abbrev Outcome (σ : Type) [NativeLayer σ] := Except WordFault Unit × Session σ

def push (cell : Cell) (session : Session σ) : Session σ :=
  { session with machine := session.machine.push cell }

def withOperands {α : Type} (take : Take α) (session : Session σ)
    (next : α → Session σ → Outcome σ) : Outcome σ :=
  match take session.machine.stack with
  | .error fault stack => (.error fault, { session with machine.stack := stack })
  | .ok operands stack => next operands { session with machine.stack := stack }

def withInterface (handle : Cell) (session : Session σ)
    (next : NativeLayer.Interface σ → Outcome σ) : Outcome σ :=
  match session.interfaces.get? handle with
  | none => (.error (.unknownHandle handle), session)
  | some interface => next interface

def withDevice (handle : Cell) (session : Session σ)
    (next : NativeLayer.Device σ → Outcome σ) : Outcome σ :=
  match session.devices.get? handle with
  | none => (.error (.unknownHandle handle), session)
  | some device => next device

def withWindow (address : Cell) (length : Nat) (session : Session σ)
    (next : Bytes → Outcome σ) : Outcome σ :=
  match session.machine.window? address length with
  | none => (.error (.badAddress address length), session)
  | some buffer => next buffer

def found : Cell := -1

def notFound : Cell := 0

/-- Drops the entry that the next one displaces. There is none before every identifier has been
handed out. -/
def dropDisplaced {α : Type} (drop : α → σ → σ) (table : HandleTable α) (host : σ) : σ :=
  match table.get? table.next with
  | none => host
  | some displaced => drop displaced host

def findInterface (session : Session σ) : Outcome σ :=
  withOperands FindOperands.take session fun operands session =>
    match Access.findInterface operands.vendorId operands.productId session.host with
    | (.error failure, host) => (.error (.usb failure), { session with host })
    | (.ok none, host) => (.ok (), push notFound { session with host })
    | (.ok (some interface), host) =>
      let host := dropDisplaced NativeLayer.dropInterface session.interfaces host
      match session.interfaces.insert interface with
      | (handle, interfaces) => (.ok (), push found (push handle { session with host, interfaces }))

def closeInterface (session : Session σ) : Outcome σ :=
  withOperands Take.cell session fun handle session =>
    withInterface handle session fun interface =>
      let session := { session with interfaces := session.interfaces.erase handle }
      match Access.closeInterface interface session.host with
      | (.error failure, host) =>
        (.error (.usb failure),
          { session with host, interfaces := session.interfaces.put handle interface })
      | (.ok (), host) => (.ok (), { session with host })

/-- A request that fails pushes a zero all the same. -/
def control (session : Session σ) : Outcome σ :=
  withOperands ControlOperands.take session fun operands session =>
    withInterface operands.handle session fun interface =>
      withWindow operands.address operands.setup.length.toNat session fun buffer =>
        match Access.control interface operands.setup buffer session.host with
        | ((answer, buffer), host) =>
          let session :=
            { session with host, machine := session.machine.store operands.address buffer }
          match answer with
          | .error failure => (.error (.usb failure), push 0 session)
          | .ok count => (.ok (), push (Int64.ofNat count) session)

def pipeProperties (session : Session σ) : Outcome σ :=
  withOperands PipeOperands.take session fun operands session =>
    withInterface operands.handle session fun interface =>
      match Access.pipeProperties interface operands.pipe session.host with
      | (.error failure, host) => (.error (.usb failure), { session with host })
      | (.ok pipe, host) =>
        (.ok (), { session with host, machine := session.machine.pushAll pipe.cells })

def read (session : Session σ) : Outcome σ :=
  withOperands TransferOperands.take session fun operands session =>
    withInterface operands.handle session fun interface =>
      withWindow operands.address operands.size session fun buffer =>
        match Access.read interface operands.pipe buffer session.host with
        | ((answer, buffer), host) =>
          let session :=
            { session with host, machine := session.machine.store operands.address buffer }
          match answer with
          | .error failure => (.error (.usb failure), session)
          | .ok count => (.ok (), push (Int64.ofNat count) session)

def write (session : Session σ) : Outcome σ :=
  withOperands TransferOperands.take session fun operands session =>
    withInterface operands.handle session fun interface =>
      withWindow operands.address operands.size session fun data =>
        match Access.write interface operands.pipe data session.host with
        | (.error failure, host) => (.error (.usb failure), { session with host })
        | (.ok (), host) => (.ok (), { session with host })

def findDevice (session : Session σ) : Outcome σ :=
  withOperands FindOperands.take session fun operands session =>
    match Access.findDevice operands.vendorId operands.productId session.host with
    | (.error failure, host) => (.error (.usb failure), { session with host })
    | (.ok none, host) => (.ok (), push notFound { session with host })
    | (.ok (some device), host) =>
      let host := dropDisplaced NativeLayer.dropDevice session.devices host
      match session.devices.insert device with
      | (handle, devices) => (.ok (), push found (push handle { session with host, devices }))

def closeDevice (session : Session σ) : Outcome σ :=
  withOperands Take.cell session fun handle session =>
    withDevice handle session fun device =>
      (.ok (),
        { session with
          host := Access.closeDevice device session.host
          devices := session.devices.erase handle })

def request (session : Session σ) : Outcome σ :=
  withOperands ControlOperands.take session fun operands session =>
    withDevice operands.handle session fun device =>
      withWindow operands.address operands.setup.length.toNat session fun buffer =>
        match Access.request device operands.setup buffer session.host with
        | ((answer, buffer), host) =>
          let session :=
            { session with host, machine := session.machine.store operands.address buffer }
          match answer with
          | .error failure => (.error (.usb failure), session)
          | .ok () => (.ok (), session)

def run : Word → Session σ → Outcome σ
  | .findInterface => findInterface
  | .closeInterface => closeInterface
  | .control => control
  | .pipeProperties => pipeProperties
  | .read => read
  | .write => write
  | .findDevice => findDevice
  | .closeDevice => closeDevice
  | .request => request

end Session

end UsbHost
