import UsbHost.Proofs.Bench.Effect

/-!
Locality of a bench. A request, a transfer or a close looks at the faults and at one device, changes
that device alone, and writes to the log; where two benches look the same from there, it does the
same to both.
-/

namespace UsbHost.Bench

/-- Two benches that cannot be told apart by what one device does. -/
structure LooksSame (device : Nat) (bench other : Bench) : Prop where
  faults : bench.faults = other.faults
  found : bench.devices[device]? = other.devices[device]?

def touch (device : Nat) (change : BenchDevice → BenchDevice) (calls : List BenchCall)
    (bench : Bench) : Bench :=
  { bench with devices := bench.devices.modify device change, calls := bench.calls ++ calls }

def TouchSame {α : Type} (device : Nat) (bench other : Bench) (first second : α × Bench) : Prop :=
  ∃ answer change calls, first = (answer, bench.touch device change calls) ∧
    second = (answer, other.touch device change calls)

section

variable {device : Nat} {bench other : Bench}

theorem touch_id (device : Nat) (calls : List BenchCall) (bench : Bench) :
    bench.touch device id calls = bench.recordAll calls := by
  simp [touch, recordAll]

theorem record_touch (change : BenchDevice → BenchDevice) (calls : List BenchCall)
    (call : BenchCall) (bench : Bench) :
    (bench.touch device change calls).record call =
      bench.touch device change (calls ++ [call]) := by
  simp only [touch, record, List.append_assoc]

theorem looksSame_touch {device other : Nat} (apart : device ≠ other)
    (change : BenchDevice → BenchDevice) (calls : List BenchCall) (bench : Bench) :
    LooksSame other bench (bench.touch device change calls) :=
  ⟨rfl, (List.getElem?_modify_ne change bench.devices apart).symm⟩

theorem LooksSame.recordAll (same : LooksSame device bench other) (calls : List BenchCall) :
    LooksSame device (bench.recordAll calls) (other.recordAll calls) :=
  ⟨same.faults, same.found⟩

theorem LooksSame.fault? (same : LooksSame device bench other) (step : NativeStep) :
    bench.fault? step = other.fault? step := by
  rw [Bench.fault?, Bench.fault?, same.faults]

theorem LooksSame.device? (same : LooksSame device bench other) :
    bench.device? device = other.device? device := by
  rw [Bench.device?, Bench.device?, same.found]

theorem LooksSame.pipe? (same : LooksSame device bench other) (pipe : UInt8) :
    bench.pipe? device pipe = other.pipe? device pipe := by
  rw [Bench.pipe?, Bench.pipe?, same.device?]

theorem idle_same {α : Type} (answer : α) :
    TouchSame device bench other (answer, bench) (answer, other) := by
  refine ⟨answer, id, [], ?_, ?_⟩
  · rw [touch_id, Bench.recordAll, List.append_nil]
  · rw [touch_id, Bench.recordAll, List.append_nil]

theorem TouchSame.map {α β : Type} {first second : α × Bench}
    (same : TouchSame device bench other first second) (read : α → β) :
    TouchSame device bench other (read first.1, first.2) (read second.1, second.2) := by
  obtain ⟨answer, change, calls, rfl, rfl⟩ := same
  exact ⟨read answer, change, calls, rfl, rfl⟩

theorem observe_same {α : Type} {call : BenchCall} {step : NativeStep}
    {look : Bench → Except NativeFault α} (same : LooksSame device bench other)
    (looks : look (bench.recordAll [call]) = look (other.recordAll [call])) :
    TouchSame device bench other (observe call step look bench) (observe call step look other) := by
  rw [observe_eq, observe_eq, same.fault?, looks, ← touch_id device, ← touch_id device]
  exact ⟨_, id, [call], rfl, rfl⟩

theorem answerControl_same {call : BenchCall} {step : NativeStep}
    (same : LooksSame device bench other) (setup : Setup) (stage : Bytes) :
    TouchSame device bench other (answerControl call step device setup stage bench)
      (answerControl call step device setup stage other) := by
  have looks : (bench.recordAll [call]).device? device = (other.recordAll [call]).device? device :=
    (same.recordAll [call]).device?
  have observed := @observe_same device bench other _ call step
    (fun bench => (bench.device? device).map fun found => found.answerControl setup stage) same
    (by rw [looks])
  obtain ⟨answer, change, calls, onBench, onOther⟩ := observed
  unfold answerControl
  rw [onBench, onOther]
  cases answer with
  | error fault => exact ⟨_, change, calls, rfl, rfl⟩
  | ok reply => exact ⟨_, change, calls, rfl, rfl⟩

theorem onDataStage_same {length : Nat} {buffer : Bytes}
    {request : Bytes → Bench → (Except Failure Nat × Bytes) × Bench}
    (requests : ∀ stage,
      TouchSame device bench other (request stage bench) (request stage other)) :
    TouchSame device bench other (Access.onDataStage length buffer bench request)
      (Access.onDataStage length buffer other request) := by
  unfold Access.onDataStage
  by_cases short : buffer.length < length
  · rw [if_pos short, if_pos short]
    exact idle_same _
  · rw [if_neg short, if_neg short]
    exact (requests (buffer.take length)).map fun answer =>
      (answer.1, answer.2 ++ buffer.drop length)

theorem control_same {interface : BenchInterface}
    (same : LooksSame interface.device bench other) (setup : Setup) (buffer : Bytes) :
    TouchSame interface.device bench other
      (Access.control (σ := Bench) interface setup buffer bench)
      (Access.control (σ := Bench) interface setup buffer other) := by
  refine onDataStage_same ?_
  intro stage
  exact (answerControl_same same setup stage).map fun answer =>
    (Access.atStep .controlRequest (answer.1.map fun count => min count setup.length.toNat),
      answer.2)

theorem request_same (same : LooksSame device bench other) (setup : Setup) (buffer : Bytes) :
    TouchSame device bench other (Access.request (σ := Bench) device setup buffer bench)
      (Access.request (σ := Bench) device setup buffer other) := by
  have staged := @onDataStage_same device bench other setup.length.toNat buffer
    (fun stage host =>
      match NativeLayer.deviceRequest (σ := Bench) device setup stage host with
      | ((answer, stage), host) => ((Access.atStep .deviceRequest answer, stage), host)) ?_
  · exact staged.map fun answer => (answer.1.map fun _ => (), answer.2)
  · intro stage
    exact (answerControl_same same setup stage).map fun answer =>
      (Access.atStep .deviceRequest answer.1, answer.2)

theorem readPipe_same {interface : BenchInterface}
    (same : LooksSame interface.device bench other) (pipe : UInt8) (timeouts : Timeouts)
    (buffer : Bytes) :
    TouchSame interface.device bench other (readPipe interface pipe timeouts buffer bench)
      (readPipe interface pipe timeouts buffer other) := by
  have entered := same.recordAll [.readPipe interface.device pipe buffer.length timeouts]
  have faults := same.fault? .readPipe
  unfold readPipe
  simp only [enter, record_eq, faults]
  cases other.fault? .readPipe with
  | some fault =>
      simp only [← touch_id interface.device]
      exact ⟨_, id, _, rfl, rfl⟩
  | none =>
      simp only [entered.pipe? pipe, entered.found]
      generalize pipe? interface.device pipe (other.recordAll _) = described
      cases described with
      | error fault =>
          simp only [← touch_id interface.device]
          exact ⟨_, id, _, rfl, rfl⟩
      | ok found =>
          by_cases leadsIn : found.direction = .input
          · simp only [if_pos leadsIn]
            exact ⟨_, fun device => { device with
              readQueue := device.readQueue.drop buffer.length }, _, rfl, rfl⟩
          · simp only [if_neg leadsIn, ← touch_id interface.device]
            exact ⟨_, id, _, rfl, rfl⟩

theorem read_same {interface : BenchInterface} (same : LooksSame interface.device bench other)
    (pipe : UInt8) (buffer : Bytes) :
    TouchSame interface.device bench other (Access.read (σ := Bench) interface pipe buffer bench)
      (Access.read (σ := Bench) interface pipe buffer other) :=
  (readPipe_same same pipe Timeouts.pipe buffer).map fun answer =>
    (Access.atStep .readPipe (answer.1.map fun count => min count buffer.length), answer.2)

theorem write_same {interface : BenchInterface} (same : LooksSame interface.device bench other)
    (pipe : UInt8) (data : Bytes) :
    TouchSame interface.device bench other (Access.write (σ := Bench) interface pipe data bench)
      (Access.write (σ := Bench) interface pipe data other) := by
  have written : TouchSame interface.device bench other
      (writePipe interface pipe Timeouts.pipe data bench)
      (writePipe interface pipe Timeouts.pipe data other) := by
    refine observe_same same ?_
    rw [(same.recordAll _).pipe? pipe]
  exact written.map (Access.atStep .writePipe)

theorem pipeProperties_same {interface : BenchInterface}
    (same : LooksSame interface.device bench other) (pipe : UInt8) :
    TouchSame interface.device bench other
      (Access.pipeProperties (σ := Bench) interface pipe bench)
      (Access.pipeProperties (σ := Bench) interface pipe other) := by
  have described : TouchSame interface.device bench other
      (NativeLayer.pipeProperties (σ := Bench) interface pipe bench)
      (NativeLayer.pipeProperties (σ := Bench) interface pipe other) :=
    observe_same same ((same.recordAll _).pipe? pipe)
  exact described.map (Access.atStep .getPipeProperties)

theorem closeInterface_same {interface : BenchInterface}
    (same : LooksSame interface.device bench other) :
    TouchSame interface.device bench other (Access.closeInterface (σ := Bench) interface bench)
      (Access.closeInterface (σ := Bench) interface other) := by
  have closed : TouchSame interface.device bench other
      (NativeLayer.closeInterface (σ := Bench) interface bench)
      (NativeLayer.closeInterface (σ := Bench) interface other) :=
    observe_same same rfl
  obtain ⟨answer, change, calls, onBench, onOther⟩ := closed
  simp only [Access.closeInterface, onBench, onOther]
  cases answer with
  | error cause => exact ⟨_, change, calls, rfl, rfl⟩
  | ok shut =>
      simp only [NativeLayer.releaseInterface, record_touch]
      exact ⟨_, change, _, rfl, rfl⟩

end

end UsbHost.Bench
