import UsbHost.Proofs.Bench.Queue
import UsbHost.Proofs.Bus.Effect
import UsbHost.Proofs.Words.Window

/-!
Memory under words. On a bench as on a bus no word touches a byte outside its window; on a bench it
is also known which bytes come in, and how many of them.
-/

namespace UsbHost

theorem Access.onDataStage_whole {σ : Type} {length : Nat} {buffer : Bytes} {host : σ}
    {request : Bytes → σ → (Except Failure Nat × Bytes) × σ} (whole : buffer.length = length) :
    onDataStage length buffer host request = request buffer host := by
  unfold onDataStage
  rw [if_neg (by omega), List.take_of_length_le (by omega), List.drop_of_length_le (by omega)]
  rcases request buffer host with ⟨⟨answer, stage⟩, after⟩
  simp

namespace Bench

def response (device : Nat) (bench : Bench) : Bytes :=
  (bench.devices[device]?.map BenchDevice.controlResponse).getD []

inductive Reply (bench : Bench) (device : Nat) (setup : Setup) (buffer : Bytes) :
    Except Failure Nat → Bytes → Prop
  | refused {failure} : Reply bench device setup buffer (.error failure) buffer
  | received (input : setup.isInput = true) :
      Reply bench device setup buffer (.ok (min buffer.length (bench.response device).length))
        (Bytes.overwrite buffer (bench.response device))
  | sent (output : setup.isInput = false) :
      Reply bench device setup buffer (.ok buffer.length) buffer

theorem answerControl_reply {call : BenchCall} {step : NativeStep} {device : Nat} {setup : Setup}
    {stage data : Bytes} {bench host : Bench} {answer : Except NativeFault Nat}
    (called : answerControl call step device setup stage bench = ((answer, data), host)) :
    Reply bench device setup stage (Access.atStep step answer) data := by
  unfold answerControl at called
  rw [observe_eq] at called
  cases told : bench.fault? step with
  | some fault =>
      simp only [told] at called
      cases called
      exact .refused
  | none =>
      simp only [told, device?, devices_recordAll] at called
      cases found : bench.devices[device]? with
      | none =>
          simp only [found] at called
          cases called
          exact .refused
      | some known =>
          have response : bench.response device = known.controlResponse := by
            rw [Bench.response, found]
            rfl
          simp only [found, Except.map, BenchDevice.answerControl, ← response] at called
          cases input : setup.isInput with
          | true =>
              simp only [input, if_true] at called
              cases called
              exact .received input
          | false =>
              simp only [input, Bool.false_eq_true, if_false] at called
              cases called
              exact .sent input

section

variable {setup : Setup} {buffer data : Bytes} {bench host : Bench}

theorem control_reply {interface : BenchInterface} {answer : Except Failure Nat}
    (whole : buffer.length = setup.length.toNat)
    (called : Access.control (σ := Bench) interface setup buffer bench = ((answer, data), host)) :
    Reply bench interface.device setup buffer answer data := by
  unfold Access.control at called
  rw [Access.onDataStage_whole whole] at called
  rcases requested : NativeLayer.controlRequest (σ := Bench) interface setup Timeouts.control
    buffer bench with ⟨⟨native, stage⟩, after⟩
  have reply : Reply bench interface.device setup buffer (Access.atStep .controlRequest native)
      stage := answerControl_reply requested
  simp only [requested] at called
  cases called
  cases native with
  | error fault => exact reply
  | ok count =>
      have clamped : min count setup.length.toNat = count := by
        rw [← whole]
        cases reply with
        | received input => omega
        | sent output => omega
      rw [Except.map, clamped]
      exact reply

theorem request_reply {device : Nat} {answer : Except Failure Unit}
    (whole : buffer.length = setup.length.toNat)
    (called : Access.request (σ := Bench) device setup buffer bench = ((answer, data), host)) :
    ∃ counted, Reply bench device setup buffer counted data ∧ answer = counted.map fun _ => () := by
  unfold Access.request at called
  rw [Access.onDataStage_whole whole] at called
  rcases requested : NativeLayer.deviceRequest (σ := Bench) device setup buffer bench with
    ⟨⟨native, stage⟩, after⟩
  simp only [requested] at called
  cases called
  exact ⟨_, answerControl_reply requested, rfl⟩

end

theorem Reply.length {bench : Bench} {device : Nat} {setup : Setup} {buffer data : Bytes}
    {answer : Except Failure Nat} (reply : Reply bench device setup buffer answer data) :
    data.length = buffer.length := by
  cases reply with
  | refused | sent => rfl
  | received input => exact Bytes.length_overwrite buffer _

theorem length_answerControl (call : BenchCall) (step : NativeStep) (device : Nat) (setup : Setup)
    (stage : Bytes) (bench : Bench) :
    (answerControl call step device setup stage bench).1.2.length = stage.length := by
  rcases called : answerControl call step device setup stage bench with ⟨⟨answer, data⟩, host⟩
  exact (answerControl_reply called).length

theorem length_readPipe (interface : BenchInterface) (pipe : UInt8) (timeouts : Timeouts)
    (buffer : Bytes) (bench : Bench) :
    (readPipe interface pipe timeouts buffer bench).1.2.length = buffer.length := by
  unfold readPipe
  split
  · rfl
  · split
    · rfl
    · split
      · exact Bytes.length_overwrite buffer _
      · rfl

instance : KeepsBuffers Bench where
  controlRequest _ _ _ stage bench := length_answerControl _ _ _ _ stage bench
  deviceRequest _ _ stage bench := length_answerControl _ _ _ _ stage bench
  readPipe := length_readPipe

end Bench

namespace Bus

theorem length_controlReply (fault : Int) (isInput : Bool) (stage : Bytes)
    (script : Option Script) :
    (controlReply fault isInput stage script).2.length = stage.length := by
  unfold controlReply
  split
  · split
    · rfl
    · split <;> rfl
  · split
    · rfl
    · split
      · exact Bytes.length_overwrite stage _
      · rfl

theorem length_control (handle : BusHandle) (setup : Setup) (timeout : Nat) (data : Bytes)
    (bus : Bus) : (bus.control handle setup timeout data).1.2.length = data.length := by
  unfold control
  simp only [List.length_append, length_controlReply, List.length_take, List.length_drop]
  omega

theorem length_transferReply (fault : Int) (isInput : Bool) (data : Bytes)
    (script : Option Script) :
    (transferReply fault isInput data script).data.length = data.length := by
  unfold transferReply
  split
  · split
    · rfl
    · split <;> rfl
  · split
    · exact Bytes.length_overwrite data _
    · rfl

theorem length_transfer (mode : TransferMode) (handle : BusHandle) (endpoint : UInt8)
    (timeout : Nat) (data : Bytes) (bus : Bus) :
    (bus.transfer mode handle endpoint timeout data).1.2.length = data.length := by
  unfold transfer
  simp only
  generalize (if endpoint &&& 0x80 != 0 then [] else data.take _) = sent
  split
  · rfl
  · simp only [List.length_append, length_transferReply, List.length_take, List.length_drop]
    omega

theorem length_readPipe (interface : BusInterface) (pipe : UInt8) (timeouts : Timeouts)
    (buffer : Bytes) (bus : Bus) :
    (readPipe interface pipe timeouts buffer bus).1.2.length = buffer.length := by
  unfold readPipe
  cases route interface pipe .input with
  | error fault => rfl
  | ok way => exact length_transfer way.1 interface.handle way.2 _ buffer bus

instance : KeepsBuffers Bus where
  controlRequest interface setup timeouts stage bus :=
    length_control interface.handle setup timeouts.completion stage bus
  deviceRequest handle setup stage bus := length_control handle setup _ stage bus
  readPipe := length_readPipe

end Bus

namespace Session

def responds? (session : Session Bench) (deviceOf : Cell → Option Nat) :
    Option (Cell × Nat × Bytes) :=
  match ControlOperands.take session.machine.stack with
  | .error _ _ => none
  | .ok operands _ =>
    if operands.setup.isInput then
      (deviceOf operands.handle).map fun device =>
        (operands.address, operands.setup.length.toNat, session.host.response device)
    else none

/-- Where a word brings bytes to, the length of the window there, and what there is to bring: what
is still unread, or the response to a request. -/
def brings? (session : Session Bench) : Word → Option (Cell × Nat × Bytes)
  | .read =>
    match TransferOperands.take session.machine.stack with
    | .error _ _ => none
    | .ok operands _ =>
      (session.interfaces.get? operands.handle).map fun interface =>
        (operands.address, operands.size, session.host.unread (BenchInterface.device interface))
  | .control =>
    session.responds? fun handle => (session.interfaces.get? handle).map BenchInterface.device
  | .request => session.responds? fun handle => session.devices.get? handle
  | _ => none

/-- On a bench memory changes by what a word brings in, and by nothing else. -/
structure BringsExactly (session after : Session Bench) (word : Word)
    (result : Except WordFault Unit) : Prop where
  untouched : after.machine.memory ≠ session.machine.memory →
    result = .ok () ∧ (session.brings? word).isSome
  brought : result = .ok () → ∀ address length data,
    session.brings? word = some (address, length, data) →
    after.machine.memory =
      session.machine.memory.take address.toInt.toNat ++ data.take (min length data.length) ++
        session.machine.memory.drop (address.toInt.toNat + min length data.length)
  counted : result = .ok () → word = .read ∨ word = .control → ∀ address length data,
    session.brings? word = some (address, length, data) →
    ∃ count rest, after.machine.stack = count :: rest ∧ count.toInt = min length data.length
  sent : result = .ok () → word = .control → ∀ operands rest,
    ControlOperands.take session.machine.stack = .ok operands rest →
    operands.setup.isInput = false →
    after.machine.stack = Int64.ofNat operands.setup.length.toNat :: rest

namespace BringsExactly

variable {session after : Session Bench} {word : Word} {result : Except WordFault Unit}

theorem of_error {fault : WordFault} (same : after.machine.memory = session.machine.memory) :
    BringsExactly session after word (.error fault) :=
  ⟨fun changed => absurd same changed, nofun, nofun, nofun⟩

theorem of_silent (same : after.machine.memory = session.machine.memory)
    (silent : session.brings? word = none)
    (sent : word = .control → ∀ operands rest,
      ControlOperands.take session.machine.stack = .ok operands rest →
      after.machine.stack = Int64.ofNat operands.setup.length.toNat :: rest) :
    BringsExactly session after word result := by
  refine ⟨fun changed => absurd same changed, ?_, ?_, ?_⟩
  · intro _ address length data brings
    rw [silent] at brings
    cases brings
  · intro _ _ address length data brings
    rw [silent] at brings
    cases brings
  · intro _ controls operands rest taken _
    exact sent controls operands rest taken

theorem of_brought {address : Cell} {length : Nat} {buffer data : Bytes}
    (brings : session.brings? word = some (address, length, data))
    (granted : session.machine.window? address length = some buffer)
    (stored : after.machine.memory =
      (session.machine.store address (Bytes.overwrite buffer data)).memory)
    (bounded : length < 0x8000000000000000)
    (pushed : word = .read ∨ word = .control →
      ∃ rest, after.machine.stack = Int64.ofNat (min length data.length) :: rest)
    (input : word = .control → ∀ operands rest,
      ControlOperands.take session.machine.stack = .ok operands rest →
      operands.setup.isInput = true) : BringsExactly session after word (.ok ()) := by
  refine ⟨?_, ?_, ?_, ?_⟩
  · intro _
    exact ⟨rfl, by rw [brings]; rfl⟩
  · intro _ other otherLength source same
    rw [brings] at same
    cases same
    rw [stored, Machine.store_overwrite data granted]
  · intro _ counts other otherLength source same
    rw [brings] at same
    cases same
    obtain ⟨rest, left⟩ := pushed counts
    refine ⟨_, rest, left, ?_⟩
    rw [Int64.toInt_ofNat_of_lt (by omega)]
  · intro _ controls operands rest taken output
    rw [input controls operands rest taken] at output
    cases output

end BringsExactly

end Session

open Session

theorem WordEnding.bringsExactly {session after : Session Bench} {word : Word}
    {result : Except WordFault Unit} (ending : WordEnding session word result after) :
    BringsExactly session after word result := by
  cases ending with
  | refused | unknown | outside => exact .of_error rfl
  | interfaceFailed | interfaceAbsent | interfaceFound | interfaceKept | interfaceClosed
  | deviceFailed | deviceAbsent | deviceFound | deviceClosed | described | writtenTo =>
      exact .of_silent rfl rfl nofun
  | @controlled operands rest interface buffer answer data host taken live granted called =>
      have size := Machine.length_of_window? granted
      have bounded := operands.setup.length.toNat_lt
      have reply := Bench.control_reply size called
      cases reply with
      -- The buffer comes back as it was, and is stored where it came from.
      | refused => exact .of_error (Machine.store_window granted)
      | received input =>
          have brings : session.brings? .control = some (operands.address,
              operands.setup.length.toNat, session.host.response interface.device) := by
            simp only [brings?, responds?, taken, input, live, if_true, Option.map_some]
          refine .of_brought brings granted rfl (by omega) ?_ ?_
          · intro _
            rw [← size]
            exact ⟨rest, rfl⟩
          · intro _ other below takenToo
            rw [taken] at takenToo
            cases takenToo
            exact input
      | sent output =>
          have silent : session.brings? .control = none := by
            simp only [brings?, responds?, taken, output, Bool.false_eq_true, if_false]
          refine .of_silent (Machine.store_window granted) silent ?_
          intro _ other below takenToo
          rw [taken] at takenToo
          cases takenToo
          rw [← size]
          rfl
  | @requested operands rest device buffer answer data host taken live granted called =>
      have size := Machine.length_of_window? granted
      have bounded := operands.setup.length.toNat_lt
      obtain ⟨counted, reply, rfl⟩ := Bench.request_reply size called
      cases reply with
      | refused => exact .of_error (Machine.store_window granted)
      | received input =>
          have brings : session.brings? .request = some (operands.address,
              operands.setup.length.toNat, session.host.response device) := by
            simp only [brings?, responds?, taken, input, live, if_true, Option.map_some]
          exact .of_brought brings granted rfl (by omega) nofun nofun
      | sent output =>
          have silent : session.brings? .request = none := by
            simp only [brings?, responds?, taken, output, Bool.false_eq_true, if_false]
          exact .of_silent (Machine.store_window granted) silent nofun
  | @readFrom operands rest interface buffer answer data host taken live granted called =>
      have size := Machine.length_of_window? granted
      have reading := Bench.read_reading called
      generalize host.devices = devices at reading
      cases reading with
      | refused => exact .of_error (Machine.store_window granted)
      | taken present =>
          have brings : session.brings? .read = some (operands.address, operands.size,
              session.host.unread interface.device) := by
            simp only [brings?, taken, live, Option.map_some]
          refine .of_brought brings granted rfl (TransferOperands.size_lt taken) ?_ nofun
          intro _
          rw [← size]
          exact ⟨rest, rfl⟩

/-- On a bench as on a bus, words keep to their windows; and what they bring in on a bench is all
that changes there. -/
theorem words_keep_memory (word : Word) :
    (∀ session : Session Bench,
      KeepsMemory session (session.run word).2 word (session.run word).1 ∧
        BringsExactly session (session.run word).2 word (session.run word).1) ∧
      ∀ session : Session Bus,
        KeepsMemory session (session.run word).2 word (session.run word).1 :=
  ⟨fun session => ⟨run_keepsMemory word session, (run_ended word session).bringsExactly⟩,
    run_keepsMemory word⟩

end UsbHost
