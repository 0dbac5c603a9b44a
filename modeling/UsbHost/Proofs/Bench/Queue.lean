import UsbHost.Proofs.Bench.Effect
import UsbHost.Proofs.Words.Machine
import Mathlib.Data.List.Induction

/-!
What is read from a bench. Every device has one queue of bytes, and reads take from its front,
whichever handle and whichever pipe they come through. What the reads of a run delivered and what is
still unread is what was there at first and what was queued since, in this order.
-/

namespace UsbHost

namespace Bench

def unread (device : Nat) (bench : Bench) : Bytes :=
  (bench.devices[device]?.map BenchDevice.readQueue).getD []

theorem answerControl_devices (call : BenchCall) (step : NativeStep) (device : Nat) (setup : Setup)
    (stage : Bytes) (bench : Bench) :
    (answerControl call step device setup stage bench).2.devices = bench.devices := by
  unfold answerControl
  rw [observe_eq]
  cases bench.fault? step with
  | some fault => rfl
  | none =>
      cases (bench.recordAll [call]).device? device with
      | error fault => rfl
      | ok found => rfl

theorem onDataStage_devices {length : Nat} {buffer data : Bytes} {bench host : Bench}
    {answer : Except Failure Nat} {request : Bytes → Bench → (Except Failure Nat × Bytes) × Bench}
    (called : Access.onDataStage length buffer bench request = ((answer, data), host))
    (keeps : ∀ stage, (request stage bench).2.devices = bench.devices) :
    host.devices = bench.devices := by
  unfold Access.onDataStage at called
  by_cases short : buffer.length < length
  · rw [if_pos short] at called
    cases called
    rfl
  · rw [if_neg short] at called
    cases called
    exact keeps _

theorem control_devices {interface : BenchInterface} {setup : Setup} {buffer data : Bytes}
    {bench host : Bench} {answer : Except Failure Nat}
    (called : Access.control (σ := Bench) interface setup buffer bench = ((answer, data), host)) :
    host.devices = bench.devices :=
  onDataStage_devices called fun stage => answerControl_devices _ _ _ _ stage bench

theorem request_devices {device : Nat} {setup : Setup} {buffer data : Bytes} {bench host : Bench}
    {answer : Except Failure Unit}
    (called : Access.request (σ := Bench) device setup buffer bench = ((answer, data), host)) :
    host.devices = bench.devices := by
  unfold Access.request at called
  split at called
  rename_i staged
  cases called
  exact onDataStage_devices staged fun stage => answerControl_devices _ _ _ _ stage bench

theorem write_devices {interface : BenchInterface} {pipe : UInt8} {data : Bytes}
    {bench host : Bench} {answer : Except Failure Unit}
    (called : Access.write (σ := Bench) interface pipe data bench = (answer, host)) :
    host.devices = bench.devices := by
  unfold Access.write at called
  simp only [NativeLayer.writePipe, writePipe, observe_eq] at called
  cases called
  rfl

theorem pipeProperties_devices {interface : BenchInterface} {pipe : UInt8} {bench host : Bench}
    {answer : Except Failure Pipe}
    (called : Access.pipeProperties (σ := Bench) interface pipe bench = (answer, host)) :
    host.devices = bench.devices := by
  unfold Access.pipeProperties at called
  simp only [NativeLayer.pipeProperties, observe_eq] at called
  cases called
  rfl

inductive Reading (bench : Bench) (device : Nat) (buffer : Bytes) :
    Except Failure Nat → Bytes → List BenchDevice → Prop
  | refused {cause} :
      Reading bench device buffer (.error (.native .readPipe cause)) buffer bench.devices
  | taken (present : device < bench.devices.length) :
      Reading bench device buffer (.ok (min buffer.length (bench.unread device).length))
        (Bytes.overwrite buffer (bench.unread device))
        (bench.devices.modify device fun found =>
          { found with readQueue := found.readQueue.drop buffer.length })

theorem read_reading {interface : BenchInterface} {pipe : UInt8} {buffer data : Bytes}
    {bench host : Bench} {answer : Except Failure Nat}
    (called : Access.read (σ := Bench) interface pipe buffer bench = ((answer, data), host)) :
    Reading bench interface.device buffer answer data host.devices := by
  unfold Access.read at called
  simp only [NativeLayer.readPipe, readPipe, enter, record_eq] at called
  cases told : bench.fault? .readPipe with
  | some fault =>
      simp only [told] at called
      cases called
      exact .refused
  | none =>
      simp only [told, pipe?, device?, devices_recordAll] at called
      cases found : bench.devices[interface.device]? with
      | none =>
          simp only [found] at called
          cases called
          exact .refused
      | some device =>
          have present : interface.device < bench.devices.length :=
            (List.getElem?_eq_some_iff.mp found).1
          have queued : bench.unread interface.device = device.readQueue := by
            rw [unread, found]
            rfl
          simp only [found, Option.map_some, Option.getD_some, ← queued] at called
          cases described : device.pipes.get? pipe with
          | none =>
              simp only [described] at called
              cases called
              exact .refused
          | some known =>
              simp only [described] at called
              by_cases leadsIn : known.direction = .input
              · rw [if_pos leadsIn] at called
                have few : min (min buffer.length (bench.unread interface.device).length)
                    buffer.length = min buffer.length (bench.unread interface.device).length := by
                  omega
                simp only [Except.map, few] at called
                cases called
                exact .taken present
              · rw [if_neg leadsIn] at called
                cases called
                exact .refused

theorem unread_of_modify {device : Nat} {bench host : Bench} (change : Bytes → Bytes)
    (changed : host.devices = bench.devices.modify device fun found =>
      { found with readQueue := change found.readQueue })
    (present : device < bench.devices.length) :
    host.unread device = change (bench.unread device) := by
  simp [unread, changed, present]

theorem unread_of_modify_ne {device other : Nat} {bench host : Bench}
    {change : BenchDevice → BenchDevice}
    (changed : host.devices = bench.devices.modify device change) (apart : device ≠ other) :
    host.unread other = bench.unread other := by
  simp [unread, changed, apart]

end Bench

namespace Step

/-- The device that a word has read from and the bytes that it was given: the front of its window,
as many as the count that it left on the stack. -/
def delivery? (step : Step Bench) : Option (Nat × Bytes) :=
  match step.word, step.result, TransferOperands.take step.before.machine.stack,
    step.after.machine.stack with
  | .read, .ok (), .ok operands _, count :: _ =>
    match step.before.interfaces.get? operands.handle,
      step.after.machine.window? operands.address operands.size with
    | some interface, some window =>
      some (BenchInterface.device interface, window.take count.toInt.toNat)
    | _, _ => none
  | _, _, _, _ => none

def delivered (device : Nat) (step : Step Bench) : Bytes :=
  match step.delivery? with
  | some (source, data) => if source = device then data else []
  | none => []

end Step

def Event.queued (device : Nat) : Event Bench → Bytes
  | .change (BenchChange.queue other data) => if other = device then data else []
  | _ => []

/-- What one word does to the queues: what it delivers comes off the front of one of them, as much
as was asked for or as there is, and a word that is no successful read leaves them alone. -/
structure ReadsInOrder (step : Step Bench) : Prop where
  conserves : ∀ device,
    step.delivered device ++ step.after.host.unread device = step.before.host.unread device
  delivers : step.word = .read → step.result = .ok () →
    ∃ operands rest interface,
      TransferOperands.take step.before.machine.stack = .ok operands rest ∧
      step.before.interfaces.get? operands.handle = some interface ∧
      (step.delivered (BenchInterface.device interface)).length =
        min operands.size (step.before.host.unread (BenchInterface.device interface)).length ∧
      ∀ other ≠ BenchInterface.device interface, step.delivered other = []
  idle : step.word ≠ .read ∨ step.result ≠ .ok () → ∀ device,
    step.delivered device = [] ∧ step.after.host.unread device = step.before.host.unread device
  devices : step.after.host.devices.length = step.before.host.devices.length

namespace ReadsInOrder

variable {step : Step Bench}

theorem of_idle (other : step.word ≠ .read ∨ step.result ≠ .ok ())
    (same : step.after.host.devices = step.before.host.devices) : ReadsInOrder step := by
  have nothing : ∀ device, step.delivered device = [] := by
    intro device
    have silent : step.delivery? = none := by
      unfold Step.delivery?
      split
      · rename_i reads succeeds taken pushed
        rcases other with wrong | failed
        · exact absurd reads wrong
        · exact absurd succeeds failed
      · rfl
    simp only [Step.delivered, silent]
  have unread : ∀ device, step.after.host.unread device = step.before.host.unread device := by
    intro device
    simp only [Bench.unread, same]
  refine ⟨?_, ?_, ?_, ?_⟩
  · intro device
    rw [nothing, unread, List.nil_append]
  · intro reads succeeds
    rcases other with wrong | failed
    · exact absurd reads wrong
    · exact absurd succeeds failed
  · intro _ device
    exact ⟨nothing device, unread device⟩
  · rw [same]

theorem of_reading {operands : TransferOperands} {rest : List Cell} {interface : BenchInterface}
    {data : Bytes} (reads : step.word = .read) (succeeds : step.result = .ok ())
    (taken : TransferOperands.take step.before.machine.stack = .ok operands rest)
    (live : step.before.interfaces.get? operands.handle = some interface)
    (pushed : step.after.machine.stack =
      Int64.ofNat (min operands.size (step.before.host.unread interface.device).length) :: rest)
    (window : step.after.machine.window? operands.address operands.size =
      some (Bytes.overwrite data (step.before.host.unread interface.device)))
    (fits : data.length = operands.size)
    (present : interface.device < step.before.host.devices.length)
    (changed : step.after.host.devices =
      step.before.host.devices.modify interface.device fun found =>
        { found with readQueue := found.readQueue.drop operands.size }) :
    ReadsInOrder step := by
  have small := TransferOperands.size_lt taken
  have given : step.delivery? = some (interface.device,
      (step.before.host.unread interface.device).take operands.size) := by
    have count : (Int64.ofNat
        (min operands.size (step.before.host.unread interface.device).length)).toInt.toNat =
          min data.length (step.before.host.unread interface.device).length := by
      rw [Int64.toInt_ofNat_of_lt (by omega), fits]
      omega
    simp only [Step.delivery?, reads, succeeds, taken, pushed, live, window, count]
    rw [Bytes.take_overwrite, fits]
  have here : step.delivered interface.device =
      (step.before.host.unread interface.device).take operands.size := by
    simp only [Step.delivered, given, if_true]
  have elsewhere : ∀ other ≠ interface.device, step.delivered other = [] := by
    intro other apart
    simp only [Step.delivered, given, if_neg (Ne.symm apart)]
  refine ⟨?_, ?_, ?_, ?_⟩
  · intro device
    by_cases same : device = interface.device
    · rw [same, here, Bench.unread_of_modify (List.drop operands.size) changed present,
        List.take_append_drop]
    · rw [elsewhere device same, Bench.unread_of_modify_ne changed (Ne.symm same), List.nil_append]
  · intro _ _
    refine ⟨operands, rest, interface, taken, live, ?_, elsewhere⟩
    rw [here, List.length_take]
  · intro other
    rcases other with wrong | failed
    · exact absurd reads wrong
    · exact absurd succeeds failed
  · rw [changed, List.length_modify]

end ReadsInOrder

theorem WordEnding.readsInOrder {session after : Session Bench} {word : Word}
    {result : Except WordFault Unit} (ending : WordEnding session word result after) :
    ReadsInOrder ⟨word, session, result, after⟩ := by
  cases ending with
  | refused | unknown | outside => exact .of_idle (Or.inr (by simp)) rfl
  | interfaceFailed taken called | interfaceAbsent taken called =>
      obtain ⟨calls, -, rfl⟩ := Bench.findInterface_search called
      exact .of_idle (Or.inl (by simp)) rfl
  | interfaceFound taken called =>
      obtain ⟨calls, -, rfl⟩ := Bench.findInterface_search called
      rw [Bench.dropDisplaced_idle _ _ fun _ => rfl]
      exact .of_idle (Or.inl (by simp)) rfl
  | deviceFailed taken called | deviceAbsent taken called =>
      obtain ⟨calls, -, rfl⟩ := Bench.findDevice_resolution called
      exact .of_idle (Or.inl (by simp)) rfl
  | deviceFound taken called =>
      obtain ⟨calls, -, rfl⟩ := Bench.findDevice_resolution called
      rw [Bench.dropDisplaced_idle _ _ fun _ => rfl]
      exact .of_idle (Or.inl (by simp)) rfl
  | interfaceKept taken live called | interfaceClosed taken live called =>
      obtain ⟨calls, -, rfl⟩ := Bench.closeInterface_close called
      exact .of_idle (Or.inl (by simp)) rfl
  | deviceClosed taken live => exact .of_idle (Or.inl (by simp)) rfl
  | controlled taken live granted called =>
      exact .of_idle (Or.inl (by simp)) (Bench.control_devices called)
  | requested taken live granted called =>
      exact .of_idle (Or.inl (by simp)) (Bench.request_devices called)
  | writtenTo taken live granted called =>
      exact .of_idle (Or.inl (by simp)) (Bench.write_devices called)
  | described taken live called =>
      exact .of_idle (Or.inl (by simp)) (Bench.pipeProperties_devices called)
  | readFrom taken live granted called =>
      rename_i operands rest interface buffer answer data host
      have size := Machine.length_of_window? granted
      have reading := Bench.read_reading called
      generalize changed : host.devices = devices at reading
      cases reading with
      | refused => exact .of_idle (Or.inr (by simp [Session.ended])) changed
      | taken present =>
          rw [size] at changed
          refine .of_reading rfl rfl taken live ?_ ?_ size present changed
          · rw [← size]
            rfl
          · have length := Bytes.length_overwrite buffer (session.host.unread interface.device)
            rw [size] at length
            rw [← length] at granted ⊢
            exact Machine.window?_store granted

namespace Session

theorem unread_change (device : Nat) (change : BenchChange) {bench : Bench}
    (present : device < bench.devices.length) :
    (ChangingHost.change change bench).unread device =
      bench.unread device ++ Event.queued device (.change change) := by
  cases change with
  | fail step fault | clearFaults | clearCalls => exact (List.append_nil _).symm
  | queue other data =>
      by_cases same : other = device
      · subst same
        rw [Bench.unread_of_modify (· ++ data) rfl present]
        simp [Event.queued]
      · rw [Bench.unread_of_modify_ne rfl same]
        simp [Event.queued, same]

theorem devices_length_change (change : BenchChange) (bench : Bench) :
    (ChangingHost.change change bench).devices.length = bench.devices.length := by
  cases change with
  | fail step fault | clearFaults | clearCalls => rfl
  | queue device data => exact List.length_modify _ _ _

theorem devices_length_advance (events : List (Event Bench)) (session : Session Bench) :
    (session.advance events).host.devices.length = session.host.devices.length := by
  refine advance_keeps (fun reached =>
    reached.host.devices.length = session.host.devices.length) ?_ events session rfl
  intro event reached same
  cases event with
  | word word => exact (run_ended word reached).readsInOrder.devices.trans same
  | machine machine => exact same
  | change change => exact (devices_length_change change reached.host).trans same

theorem reads_balance (host : Bench) (machine : Machine) (events : List (Event Bench))
    {device : Nat} (present : device < host.devices.length) :
    ((start host machine).history events).flatMap (Step.delivered device) ++
        ((start host machine).advance events).host.unread device =
      host.unread device ++ events.flatMap (Event.queued device) := by
  induction events using List.reverseRecOn with
  | nil => exact (List.append_nil _).symm
  | append_singleton events event ih =>
      have here : device < ((start host machine).advance events).host.devices.length := by
        rw [devices_length_advance]
        exact present
      simp only [advance_append, history_append, advance_singleton, history_singleton,
        List.flatMap_append, List.flatMap_singleton, List.append_assoc]
      cases event with
      | word word =>
          have order := (run_ended word ((start host machine).advance events)).readsInOrder
          have step : Step.delivered device (((start host machine).advance events).step word) ++
              (((start host machine).advance events).apply (.word word)).host.unread device =
                ((start host machine).advance events).host.unread device :=
            order.conserves device
          simp only [steps, List.flatMap_singleton, Event.queued, List.append_nil]
          rw [step, ih]
      | machine other =>
          simp only [steps, List.flatMap_nil, List.nil_append, Event.queued, List.append_nil]
          exact ih
      | change change =>
          simp only [steps, List.flatMap_nil, List.nil_append, apply]
          rw [unread_change device change here, ← List.append_assoc, ih, List.append_assoc]

/-- Over a whole run nothing that is queued is lost, given out twice, put in another order, or given
to another device. -/
theorem reads_lose_nothing (host : Bench) (machine : Machine) (events : List (Event Bench)) :
    (∀ step ∈ (start host machine).history events, ReadsInOrder step) ∧
      ∀ device < host.devices.length,
        ((start host machine).history events).flatMap (Step.delivered device) ++
            ((start host machine).advance events).host.unread device =
          host.unread device ++ events.flatMap (Event.queued device) := by
  refine ⟨?_, fun device present => reads_balance host machine events present⟩
  intro step member
  obtain ⟨earlier, word, later, split, rfl⟩ := exists_of_mem_history member
  exact (run_ended word _).readsInOrder

def readInParts : List (Event Bench) :=
  [.machine { stack := [0x5740, 0x0483] }, .word .findInterface,
    .machine { stack := [1, 1, 2, 0], memory := Bytes.zeros 4 }, .word .read,
    .change (.fail .readPipe .timeout),
    .machine { stack := [1, 1, 4, 0], memory := Bytes.zeros 4 }, .word .read,
    .change .clearFaults, .change (.queue 0 [4]),
    .machine { stack := [1, 1, 4, 0], memory := Bytes.zeros 4 }, .word .read]

theorem parts_lose_nothing :
    (((start ({ devices := [{ BenchDevice.probe with readQueue := [1, 2, 3] }] } : Bench)
        {}).history readInParts).map (Step.delivered 0) = [[], [1, 2], [], [3, 4]]) ∧
      ((start ({ devices := [{ BenchDevice.probe with readQueue := [1, 2, 3] }] } : Bench)
          {}).history readInParts).flatMap (Step.delivered 0) ++
          ((start ({ devices := [{ BenchDevice.probe with readQueue := [1, 2, 3] }] } : Bench)
            {}).advance readInParts).host.unread 0 =
        [1, 2, 3] ++ readInParts.flatMap (Event.queued 0) :=
  ⟨by decide, (reads_lose_nothing
    { devices := [{ BenchDevice.probe with readQueue := [1, 2, 3] }] } {} readInParts).2 0
      (by decide)⟩

end Session

end UsbHost
