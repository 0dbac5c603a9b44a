import Mathlib.Data.Nat.Bitwise
import UsbHost.Proofs.Bus.Pipes

/-!
Where the transfers of a kept interface go on a bus: to the endpoint that the pipe number stands
for, once, with all of the buffer, or nowhere at all. The endpoint's address is put together again
from its number and its direction, and the number has three bits only; an endpoint numbered eight or
above is taken for another one.
-/

namespace UsbHost

def Direction.ofInput (isInput : Bool) : Direction := if isInput then .input else .output

@[simp] theorem Direction.ofInput_inj {first second : Bool} :
    ofInput first = ofInput second ↔ first = second := by
  cases first <;> cases second <;> simp [ofInput]

namespace EndpointDescriptor

def isInput (endpoint : EndpointDescriptor) : Bool := endpoint.address &&& 0x80 != 0

def mode? (endpoint : EndpointDescriptor) : Option TransferMode :=
  match (endpoint.attributes &&& 0x03).toNat with
  | 2 => some .bulk
  | 3 => some .interrupt
  | _ => none

/-- The address that transfers for the endpoint go to. -/
def reached (endpoint : EndpointDescriptor) : UInt8 := endpoint.address &&& 0x87

theorem and_or (address first second : UInt8) :
    address &&& (first ||| second) = address &&& first ||| address &&& second :=
  UInt8.toBitVec_inj.mp BitVec.and_or_distrib_left

theorem top_bit (byte : UInt8) : byte &&& 0x80 = if byte.toNat.testBit 7 then 0x80 else 0 := by
  have bit : (byte &&& 0x80).toNat = (byte.toNat.testBit 7).toNat * 2 ^ 7 := by
    rw [UInt8.toNat_and]
    exact Nat.and_two_pow _ 7
  cases set : byte.toNat.testBit 7 with
  | false => exact UInt8.toNat_inj.mp (by rw [bit, set]; rfl)
  | true => exact UInt8.toNat_inj.mp (by rw [bit, set]; rfl)

theorem direction_bit (address : UInt8) : address &&& 0x80 = 0 ∨ address &&& 0x80 = 0x80 := by
  rw [top_bit]
  split
  · exact Or.inr rfl
  · exact Or.inl rfl

@[simp] theorem toPipe_direction (endpoint : EndpointDescriptor) :
    endpoint.toPipe.direction = .ofInput endpoint.isInput := by
  rcases direction_bit endpoint.address with clear | set
  · simp [toPipe, isInput, Direction.ofInput, clear]
  · simp [toPipe, isInput, Direction.ofInput, set]

@[simp] theorem toPipe_endpointAddress (endpoint : EndpointDescriptor) :
    endpoint.toPipe.endpointAddress = endpoint.reached := by
  have split : endpoint.reached = endpoint.address &&& 0x07 ||| endpoint.address &&& 0x80 :=
    and_or endpoint.address 0x07 0x80
  rcases direction_bit endpoint.address with clear | set
  · rw [clear, UInt8.or_zero] at split
    simpa [Pipe.endpointAddress, toPipe, reached, clear] using split.symm
  · rw [set] at split
    simpa [Pipe.endpointAddress, toPipe, reached, set] using split.symm

@[simp] theorem modeOf?_toPipe (endpoint : EndpointDescriptor) :
    Bus.modeOf? endpoint.toPipe.kind = endpoint.mode? := by
  have bounded : (endpoint.attributes &&& 0x03).toNat ≤ 3 := by
    rw [UInt8.toNat_and]
    exact Nat.and_le_right
  unfold mode? toPipe
  simp only
  generalize (endpoint.attributes &&& 0x03).toNat = bits at bounded
  match bits, bounded with
  | 0, _ | 1, _ | 2, _ | 3, _ => rfl

theorem reached_direction (endpoint : EndpointDescriptor) :
    (endpoint.reached &&& 0x80 != 0) = endpoint.isInput := by
  rw [reached, UInt8.and_assoc]
  rfl

/-- It is the endpoint's own address, with the reserved bits clear, exactly where bit three of that
is clear too. -/
theorem reached_eq_iff (endpoint : EndpointDescriptor) :
    endpoint.reached = endpoint.address &&& 0x8f ↔ endpoint.address &&& 0x08 = 0 := by
  have split : endpoint.address &&& 0x8f = endpoint.reached ||| endpoint.address &&& 0x08 :=
    and_or endpoint.address 0x87 0x08
  constructor
  · intro same
    have masked := congrArg (· &&& 0x08) same
    simp only [reached, UInt8.and_assoc] at masked
    exact masked.symm.trans UInt8.and_zero
  · intro clear
    rw [split, clear, UInt8.or_zero]

end EndpointDescriptor

namespace BusDevice

/-- The endpoints of interface zero in its alternate setting zero. -/
def endpoints (device : BusDevice) : List EndpointDescriptor :=
  match device.interfaces.find? fun interface => interface.number == 0 with
  | some interface => interface.endpoints
  | none => []

theorem pipes_endpoints (device : BusDevice) :
    device.pipes.endpoints = device.endpoints.map EndpointDescriptor.toPipe := by
  unfold pipes endpoints
  cases device.interfaces.find? fun interface => interface.number == 0 with
  | none => rfl
  | some interface => rfl

/-- A pipe number that transfers of one direction can go to, with its endpoint and their mode. -/
structure Serves (device : BusDevice) (isInput : Bool) (pipe : UInt8)
    (endpoint : EndpointDescriptor) (mode : TransferMode) : Prop where
  numbered : 1 ≤ pipe.toNat ∧ pipe.toNat ≤ device.endpoints.length
  described : device.endpoints[pipe.toNat - 1]? = some endpoint
  direction : endpoint.isInput = isInput
  mode : endpoint.mode? = some mode

namespace Serves

variable {device : BusDevice} {isInput : Bool} {pipe : UInt8} {endpoint : EndpointDescriptor}
  {mode : TransferMode}

theorem unique (serves : device.Serves isInput pipe endpoint mode) {other : EndpointDescriptor}
    {otherMode : TransferMode} (otherServes : device.Serves isInput pipe other otherMode) :
    other = endpoint ∧ otherMode = mode := by
  cases serves.described.symm.trans otherServes.described
  cases serves.mode.symm.trans otherServes.mode
  exact ⟨rfl, rfl⟩

theorem reached_direction (serves : device.Serves isInput pipe endpoint mode) :
    (endpoint.reached &&& 0x80 != 0) = isInput :=
  endpoint.reached_direction.trans serves.direction

end Serves

end BusDevice

namespace Bus

variable {interface : BusInterface} {known : BusDevice} {isInput : Bool} {pipe : UInt8}

theorem route_misaimed {direction : Direction}
    (misaimed : ∀ found, interface.pipes.get? pipe = some found → found.direction ≠ direction) :
    route interface pipe direction = .error .invalidParameter := by
  unfold route
  cases described : interface.pipes.get? pipe with
  | none => rfl
  | some found => exact if_pos (misaimed found described)

theorem route_eq_ok {endpoint : EndpointDescriptor} {mode : TransferMode}
    (described : interface.pipes.get? pipe = some endpoint.toPipe)
    (aimed : endpoint.isInput = isInput) (moves : endpoint.mode? = some mode) :
    route interface pipe (.ofInput isInput) = .ok (mode, endpoint.reached) := by
  simp [route, described, aimed, moves]

theorem route_eq_error {endpoint : EndpointDescriptor}
    (described : interface.pipes.get? pipe = some endpoint.toPipe)
    (unfit : endpoint.isInput = isInput → endpoint.mode? = none) :
    route interface pipe (.ofInput isInput) = .error .invalidParameter := by
  by_cases aimed : endpoint.isInput = isInput
  · simp [route, described, aimed, unfit aimed]
  · refine route_misaimed ?_
    intro found there
    cases described.symm.trans there
    simpa using aimed

theorem route_zero (interface : BusInterface) (isInput : Bool) :
    route interface 0 (.ofInput isInput) = .error .invalidParameter := by
  cases isInput <;> rfl

theorem route_cases (same : interface.pipes = known.pipes) (isInput : Bool) (pipe : UInt8) :
    (∃ endpoint mode, known.Serves isInput pipe endpoint mode ∧
        route interface pipe (.ofInput isInput) = .ok (mode, endpoint.reached)) ∨
      ((¬∃ endpoint mode, known.Serves isInput pipe endpoint mode) ∧
        route interface pipe (.ofInput isInput) = .error .invalidParameter) := by
  by_cases zero : pipe = 0
  · subst zero
    refine Or.inr ⟨?_, route_zero interface isInput⟩
    rintro ⟨endpoint, mode, serves⟩
    exact absurd serves.numbered.1 (by decide)
  have asked : interface.pipes.get? pipe =
      known.endpoints[pipe.toNat - 1]?.map EndpointDescriptor.toPipe := by
    rw [PipeTable.get?, if_neg zero, same, BusDevice.pipes_endpoints, List.getElem?_map]
  cases described : known.endpoints[pipe.toNat - 1]? with
  | none =>
      refine Or.inr ⟨?_, route_misaimed (by simp [asked, described])⟩
      rintro ⟨endpoint, mode, serves⟩
      cases described.symm.trans serves.described
  | some endpoint =>
      rw [described] at asked
      by_cases fits : endpoint.isInput = isInput ∧ ∃ mode, endpoint.mode? = some mode
      · obtain ⟨aimed, mode, moves⟩ := fits
        have bound := (List.getElem?_eq_some_iff.mp described).1
        have positive : pipe.toNat ≠ 0 := fun none => zero (UInt8.toNat_inj.mp none)
        exact Or.inl ⟨endpoint, mode, ⟨by omega, described, aimed, moves⟩,
          route_eq_ok asked aimed moves⟩
      · refine Or.inr ⟨?_, route_eq_error asked fun aimed => ?_⟩
        · rintro ⟨other, mode, serves⟩
          cases described.symm.trans serves.described
          exact fits ⟨serves.direction, mode, serves.mode⟩
        · rw [Option.eq_none_iff_forall_ne_some]
          exact fun mode moves => fits ⟨aimed, mode, moves⟩

theorem sizeField_eq {length : Nat} (fits : length < 0x80000000) : sizeField length = length :=
  Int32.toInt_ofNat_of_lt fits

theorem transfer_logs (mode : TransferMode) (handle : BusHandle) (endpoint : UInt8)
    (timeout : Nat) (data : Bytes) (bus : Bus) :
    (bus.transfer mode handle endpoint timeout data).2.calls =
      bus.calls ++ [.transfer mode handle.device endpoint (sizeField data.length)
        (timeoutField timeout)
        (if endpoint &&& 0x80 != 0 then [] else data.take (sizeField data.length).toNat)] := by
  unfold transfer
  simp only
  generalize (if endpoint &&& 0x80 != 0 then [] else data.take _) = sent
  split
  · rfl
  · obtain ⟨devices, taken⟩ := takeScript_devices handle.device (some endpoint)
      (bus.record (.transfer mode handle.device endpoint (sizeField data.length)
        (timeoutField timeout) sent))
    rw [taken]
    rfl

end Bus

/-- What reading a pipe comes to: one transfer from the endpoint that the number stands for, with
the whole buffer where the library can tell its length, or a refusal that no transfer precedes. -/
structure ReadsPipe (known : BusDevice) (interface : BusInterface) (pipe : UInt8) (buffer : Bytes)
    (bus : Bus) : Prop where
  reaches : (Access.read (σ := Bus) interface pipe buffer bus).2.calls ≠ bus.calls ↔
    ∃ endpoint mode, known.Serves true pipe endpoint mode
  served : ∀ endpoint mode, known.Serves true pipe endpoint mode →
    ∃ report data after,
      bus.transfer mode interface.handle endpoint.reached 400 buffer = ((report, data), after) ∧
      after.calls = bus.calls ++
        [.transfer mode interface.handle.device endpoint.reached (Bus.sizeField buffer.length) 400
          []] ∧
      Access.read (σ := Bus) interface pipe buffer bus =
        ((Access.atStep .readPipe ((Bus.native report).map fun count => min count buffer.length),
          data), after)
  refused : (¬∃ endpoint mode, known.Serves true pipe endpoint mode) →
    Access.read (σ := Bus) interface pipe buffer bus =
      ((.error (.native .readPipe .invalidParameter), buffer), bus)
  whole : buffer.length < 0x80000000 → Bus.sizeField buffer.length = buffer.length
  bounded : ∀ count, (Access.read (σ := Bus) interface pipe buffer bus).1.1 = .ok count →
    count ≤ buffer.length

def Bus.writeAnswer (size : Nat) : Except BusFault Nat → Except Failure Unit
  | .error fault => .error (.native .writePipe fault.toNative)
  | .ok count => if count = size then .ok () else .error (.native .writePipe .io)

theorem Bus.writeAnswer_eq_ok {size : Nat} {report : Except BusFault Nat} :
    writeAnswer size report = .ok () ↔ report = .ok size := by
  cases report with
  | error fault => simp [writeAnswer]
  | ok count => simp [writeAnswer]

structure WritesPipe (known : BusDevice) (interface : BusInterface) (pipe : UInt8) (data : Bytes)
    (bus : Bus) : Prop where
  reaches : (Access.write (σ := Bus) interface pipe data bus).2.calls ≠ bus.calls ↔
    ∃ endpoint mode, known.Serves false pipe endpoint mode
  served : ∀ endpoint mode, known.Serves false pipe endpoint mode →
    ∃ report left after,
      bus.transfer mode interface.handle endpoint.reached 400 data = ((report, left), after) ∧
      after.calls = bus.calls ++
        [.transfer mode interface.handle.device endpoint.reached (Bus.sizeField data.length) 400
          (data.take (Bus.sizeField data.length).toNat)] ∧
      Access.write (σ := Bus) interface pipe data bus =
        (Bus.writeAnswer data.length report, after)
  refused : (¬∃ endpoint mode, known.Serves false pipe endpoint mode) →
    Access.write (σ := Bus) interface pipe data bus =
      (.error (.native .writePipe .invalidParameter), bus)
  whole : data.length < 0x80000000 → Bus.sizeField data.length = data.length ∧
    data.take (Bus.sizeField data.length).toNat = data
  accepted : (Access.write (σ := Bus) interface pipe data bus).1 = .ok () ↔
    ∃ endpoint mode, known.Serves false pipe endpoint mode ∧
      (bus.transfer mode interface.handle endpoint.reached 400 data).1.1 = .ok data.length

namespace Bus

variable {interface : BusInterface} {known : BusDevice} {pipe : UInt8} {bus : Bus}

theorem read_of_route {mode : TransferMode} {endpoint : UInt8} {buffer data : Bytes}
    {report : Except BusFault Nat} {after : Bus}
    (way : route interface pipe .input = .ok (mode, endpoint))
    (moved : bus.transfer mode interface.handle endpoint 400 buffer = ((report, data), after)) :
    Access.read (σ := Bus) interface pipe buffer bus =
      ((Access.atStep .readPipe ((native report).map fun count => min count buffer.length), data),
        after) := by
  simp only [Access.read, NativeLayer.readPipe, readPipe, way, Timeouts.pipe, moved]

theorem write_of_route {mode : TransferMode} {endpoint : UInt8} {data left : Bytes}
    {report : Except BusFault Nat} {after : Bus}
    (way : route interface pipe .output = .ok (mode, endpoint))
    (moved : bus.transfer mode interface.handle endpoint 400 data = ((report, left), after)) :
    Access.write (σ := Bus) interface pipe data bus =
      (writeAnswer data.length report, after) := by
  simp only [Access.write, NativeLayer.writePipe, writePipe, way, Timeouts.pipe, moved]
  cases report with
  | error fault => rfl
  | ok count =>
      by_cases full : count = data.length
      · simp only [full, ↓reduceIte, Access.atStep, writeAnswer]
      · simp only [full, ↓reduceIte, Access.atStep, writeAnswer]

theorem read_of_refused {fault : NativeFault}
    (way : route interface pipe .input = .error fault) (buffer : Bytes) (bus : Bus) :
    Access.read (σ := Bus) interface pipe buffer bus =
      ((.error (.native .readPipe fault), buffer), bus) := by
  simp only [Access.read, NativeLayer.readPipe, readPipe, way]
  rfl

theorem write_of_refused {fault : NativeFault}
    (way : route interface pipe .output = .error fault) (data : Bytes) (bus : Bus) :
    Access.write (σ := Bus) interface pipe data bus =
      (.error (.native .writePipe fault), bus) := by
  simp only [Access.write, NativeLayer.writePipe, writePipe, way]
  rfl

theorem readsPipe (same : interface.pipes = known.pipes) (pipe : UInt8) (buffer : Bytes)
    (bus : Bus) : ReadsPipe known interface pipe buffer bus := by
  rcases route_cases same true pipe with ⟨endpoint, mode, serves, way⟩ | ⟨unserved, way⟩
  · have logs := transfer_logs mode interface.handle endpoint.reached 400 buffer bus
    rcases moved : bus.transfer mode interface.handle endpoint.reached 400 buffer with
      ⟨⟨report, data⟩, after⟩
    rw [moved, serves.reached_direction] at logs
    have read := read_of_route way moved
    refine ⟨?_, ?_, fun none => absurd ⟨endpoint, mode, serves⟩ none, sizeField_eq, ?_⟩
    · rw [read, logs]
      exact iff_of_true (by simp) ⟨endpoint, mode, serves⟩
    · intro other otherMode otherServes
      obtain ⟨rfl, rfl⟩ := serves.unique otherServes
      exact ⟨report, data, after, moved, logs, read⟩
    · intro count counted
      rw [read] at counted
      cases report with
      | error fault => cases counted
      | ok reported =>
          cases counted
          exact Nat.min_le_right reported buffer.length
  · have read := read_of_refused way buffer bus
    refine ⟨?_, fun endpoint mode serves => absurd ⟨endpoint, mode, serves⟩ unserved,
      fun none => read, sizeField_eq, ?_⟩
    · rw [read]
      exact iff_of_false (by simp) unserved
    · intro count counted
      rw [read] at counted
      cases counted

theorem writesPipe (same : interface.pipes = known.pipes) (pipe : UInt8) (data : Bytes)
    (bus : Bus) : WritesPipe known interface pipe data bus := by
  have whole (fits : data.length < 0x80000000) : sizeField data.length = data.length ∧
      data.take (sizeField data.length).toNat = data := by
    rw [sizeField_eq fits]
    exact ⟨rfl, List.take_length⟩
  rcases route_cases same false pipe with ⟨endpoint, mode, serves, way⟩ | ⟨unserved, way⟩
  · have logs := transfer_logs mode interface.handle endpoint.reached 400 data bus
    rcases moved : bus.transfer mode interface.handle endpoint.reached 400 data with
      ⟨⟨report, left⟩, after⟩
    rw [moved, serves.reached_direction] at logs
    have written := write_of_route way moved
    refine ⟨?_, ?_, fun none => absurd ⟨endpoint, mode, serves⟩ none, whole, ?_⟩
    · rw [written, logs]
      exact iff_of_true (by simp) ⟨endpoint, mode, serves⟩
    · intro other otherMode otherServes
      obtain ⟨rfl, rfl⟩ := serves.unique otherServes
      exact ⟨report, left, after, moved, logs, written⟩
    · rw [written, writeAnswer_eq_ok]
      constructor
      · rintro rfl
        exact ⟨endpoint, mode, serves, by rw [moved]⟩
      · rintro ⟨other, otherMode, otherServes, full⟩
        obtain ⟨rfl, rfl⟩ := serves.unique otherServes
        rwa [moved] at full
  · have written := write_of_refused way data bus
    refine ⟨?_, fun endpoint mode serves => absurd ⟨endpoint, mode, serves⟩ unserved,
      fun none => written, whole, ?_⟩
    · rw [written]
      exact iff_of_false (by simp) unserved
    · rw [written]
      refine iff_of_false (by simp) ?_
      rintro ⟨endpoint, mode, serves, -⟩
      exact unserved ⟨endpoint, mode, serves⟩

end Bus

namespace Session

/-- In every state of a run, transfers on a kept interface go to the endpoints of its device. The
address they go to has the direction of the endpoint, and it is the endpoint's own only where bit
three of that is clear. -/
structure AimsTransfers (session : Session Bus) : Prop where
  kept : ∀ handle (interface : BusInterface), session.interfaces.get? handle = some interface →
    ∃ known, session.host.devices[interface.handle.device]? = some known ∧
      ∀ pipe bytes, ReadsPipe known interface pipe bytes session.host ∧
        WritesPipe known interface pipe bytes session.host
  directed : ∀ known ∈ session.host.devices, ∀ isInput pipe endpoint mode,
    known.Serves isInput pipe endpoint mode → (endpoint.reached &&& 0x80 != 0) = isInput
  addressed : ∀ known ∈ session.host.devices, ∀ isInput pipe endpoint mode,
    known.Serves isInput pipe endpoint mode →
      (endpoint.reached = endpoint.address &&& 0x8f ↔ endpoint.address &&& 0x08 = 0)

theorem transfers_reach_endpoints (devices : List BusDevice) (machine : Machine)
    (events : List (Event Bus)) :
    ((start ({ devices } : Bus) machine).advance events).AimsTransfers where
  kept handle interface live := by
    obtain ⟨known, there, same⟩ := hasPipes devices machine events handle interface live
    exact ⟨known, there, fun pipe bytes =>
      ⟨Bus.readsPipe same pipe bytes _, Bus.writesPipe same pipe bytes _⟩⟩
  directed _ _ _ _ _ _ serves := serves.reached_direction
  addressed _ _ _ _ endpoint _ _ := endpoint.reached_eq_iff

def twoInputs : BusDevice where
  interfaces := [⟨0, [⟨0, [⟨0x81, 2, 64, 0⟩, ⟨0x89, 2, 64, 0⟩]⟩]⟩]
  scripts := [{ endpoint := some 0x89, data := [0xaa, 0xbb] }]

/-- The second input is read at the address of the first, where nothing comes. -/
theorem second_input_missed :
    let session := (start ({ devices := [twoInputs] } : Bus) {}).advance
      [.machine { stack := [0x5740, 0x0483] }, .word .findInterface]
    let interface : BusInterface := ⟨⟨0, 0⟩, 0, twoInputs.pipes, true⟩
    let ended := Access.read (σ := Bus) interface 2 [0, 0] session.host
    session.interfaces.get? 1 = some interface ∧
      twoInputs.Serves true 2 ⟨0x89, 2, 64, 0⟩ .bulk ∧
      ended.1.1 = .error (.native .readPipe .timeout) ∧
      ended.2.calls = session.host.calls ++ [.transfer .bulk 0 0x81 2 400 []] ∧
      ended.2.calls ≠ session.host.calls ++ [.transfer .bulk 0 (0x89 &&& 0x8f) 2 400 []] :=
  ⟨rfl, ⟨by decide, rfl, rfl, rfl⟩, by decide, by decide, by decide⟩

end Session

end UsbHost
