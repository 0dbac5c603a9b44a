import UsbHost.Access.Lookup

/-!
Requests and transfers on a found handle. A buffer goes in and comes back as the transfer left it.
The data stage of a control request is the front of its buffer, as long as the setup says, and a
count never exceeds what was asked for.
-/

namespace UsbHost.Access

variable {σ : Type} [NativeLayer σ]

/-- Runs a request on the first `length` bytes of a buffer and leaves the rest alone. A buffer that
is too short is refused before the request is made. -/
def onDataStage (length : Nat) (buffer : Bytes) (host : σ)
    (request : Bytes → σ → (Except Failure Nat × Bytes) × σ) :
    (Except Failure Nat × Bytes) × σ :=
  if buffer.length < length then
    ((.error (.bufferTooSmall length buffer.length), buffer), host)
  else
    match request (buffer.take length) host with
    | ((answer, stage), host) => ((answer, stage ++ buffer.drop length), host)

def control (interface : NativeLayer.Interface σ) (setup : Setup) (buffer : Bytes) (host : σ) :
    (Except Failure Nat × Bytes) × σ :=
  onDataStage setup.length.toNat buffer host fun stage host =>
    match NativeLayer.controlRequest interface setup Timeouts.control stage host with
    | ((answer, stage), host) =>
      ((atStep .controlRequest (answer.map fun count => min count setup.length.toNat), stage), host)

def request (device : NativeLayer.Device σ) (setup : Setup) (buffer : Bytes) (host : σ) :
    (Except Failure Unit × Bytes) × σ :=
  match onDataStage setup.length.toNat buffer host fun stage host =>
    match NativeLayer.deviceRequest device setup stage host with
    | ((answer, stage), host) => ((atStep .deviceRequest answer, stage), host) with
  | ((answer, buffer), host) => ((answer.map fun _ => (), buffer), host)

def read (interface : NativeLayer.Interface σ) (pipe : UInt8) (buffer : Bytes) (host : σ) :
    (Except Failure Nat × Bytes) × σ :=
  match NativeLayer.readPipe interface pipe Timeouts.pipe buffer host with
  | ((answer, data), host) =>
    ((atStep .readPipe (answer.map fun count => min count buffer.length), data), host)

def write (interface : NativeLayer.Interface σ) (pipe : UInt8) (data : Bytes) (host : σ) :
    Except Failure Unit × σ :=
  match NativeLayer.writePipe interface pipe Timeouts.pipe data host with
  | (answer, host) => (atStep .writePipe answer, host)

def pipeProperties (interface : NativeLayer.Interface σ) (pipe : UInt8) (host : σ) :
    Except Failure Pipe × σ :=
  match NativeLayer.pipeProperties interface pipe host with
  | (answer, host) => (atStep .getPipeProperties answer, host)

def pipeCount (interface : NativeLayer.Interface σ) (host : σ) : Except Failure UInt8 × σ :=
  match NativeLayer.pipeCount interface host with
  | (answer, host) => (atStep .getPipeCount answer, host)

def queryPipes (interface : NativeLayer.Interface σ) :
    List UInt8 → σ → Except Failure (List Pipe) × σ
  | [], host => (.ok [], host)
  | pipe :: rest, host =>
    match pipeProperties interface pipe host with
    | (.error failure, host) => (.error failure, host)
    | (.ok first, host) =>
      match queryPipes interface rest host with
      | (answer, host) => (answer.map (first :: ·), host)

def pipes (interface : NativeLayer.Interface σ) (host : σ) : Except Failure (List Pipe) × σ :=
  match pipeCount interface host with
  | (.error failure, host) => (.error failure, host)
  | (.ok count, host) =>
    queryPipes interface ((List.range (count.toNat + 1)).map UInt8.ofNat) host

end UsbHost.Access
