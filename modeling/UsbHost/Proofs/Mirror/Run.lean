import UsbHost.Proofs.Mirror.Host

/-!
A bench stands in for a bus. Where the devices of both mirror each other and nothing fails, words
run in step on the two hosts: the tables hold entries for the same devices under the same handles,
and every word that moves no data ends the same way. There is one exception, the number of an
endpoint that needs a fourth bit: the first question after such a pipe tells the two hosts apart.
-/

namespace UsbHost

namespace HandleTable

structure Shows {α β : Type} (view : β → α) (table : HandleTable α) (other : HandleTable β) :
    Prop where
  next : table.next = other.next
  entries : ∀ handle, table.get? handle = (other.get? handle).map view

namespace Shows

variable {α β : Type} {view : β → α} {table : HandleTable α} {other : HandleTable β}

theorem insert (shown : Shows view table other) (value : β) :
    Shows view (table.insert (view value)).2 (other.insert value).2 where
  next := by rw [next_insert, next_insert, shown.next]
  entries handle := by
    rw [get?_insert, get?_insert, shown.next, shown.entries]
    by_cases same : handle = other.next
    · simp [same]
    · simp [same]

theorem erase (shown : Shows view table other) (handle : Cell) :
    Shows view (table.erase handle) (other.erase handle) where
  next := shown.next
  entries later := by
    rw [get?_erase, get?_erase, shown.entries]
    by_cases same : later = handle
    · simp [same]
    · simp [same]

end Shows

end HandleTable

def BusInterface.benched (interface : BusInterface) : BenchInterface :=
  ⟨interface.handle.device, true⟩

namespace Session

structure InStep (bench : Session Bench) (bus : Session Bus) : Prop where
  hosts : Alike bench.host bus.host
  machine : bench.machine = bus.machine
  interfaces : HandleTable.Shows BusInterface.benched bench.interfaces bus.interfaces
  devices : HandleTable.Shows BusHandle.device bench.devices bus.devices
  pipes : bus.HasPipes

structure Agree (bench : Outcome Bench) (bus : Outcome Bus) : Prop where
  result : bench.1 = bus.1
  inStep : InStep bench.2 bus.2

section

variable {bench : Session Bench} {bus : Session Bus}

theorem InStep.onMachine (inStep : InStep bench bus) (change : Machine → Machine) :
    InStep { bench with machine := change bench.machine }
      { bus with machine := change bus.machine } :=
  { inStep with machine := congrArg change inStep.machine }

theorem InStep.withStack (inStep : InStep bench bus) (stack : List Cell) :
    InStep (bench.withStack stack) (bus.withStack stack) :=
  inStep.onMachine fun machine => { machine with stack }

theorem withOperands_inStep {α : Type} {take : Take α} {onBench : α → Session Bench → Outcome Bench}
    {onBus : α → Session Bus → Outcome Bus} (inStep : InStep bench bus)
    (rest : ∀ operands stack, take bus.machine.stack = .ok operands stack →
      Agree (onBench operands (bench.withStack stack)) (onBus operands (bus.withStack stack))) :
    Agree (withOperands take bench onBench) (withOperands take bus onBus) := by
  have sameStack : bench.machine.stack = bus.machine.stack := congrArg Machine.stack inStep.machine
  unfold withOperands
  rw [sameStack]
  cases taken : take bus.machine.stack with
  | error fault stack => exact ⟨rfl, inStep.withStack stack⟩
  | ok operands stack => exact rest operands stack taken

theorem withInterface_inStep {handle : Cell} {onBench : BenchInterface → Outcome Bench}
    {onBus : BusInterface → Outcome Bus} (inStep : InStep bench bus)
    (rest : ∀ interface, bus.interfaces.get? handle = some interface →
      Agree (onBench (BusInterface.benched interface)) (onBus interface)) :
    Agree (withInterface handle bench onBench) (withInterface handle bus onBus) := by
  unfold withInterface
  rw [inStep.interfaces.entries]
  cases live : bus.interfaces.get? handle with
  | none => exact ⟨rfl, inStep⟩
  | some interface => exact rest interface live

theorem withDevice_inStep {handle : Cell} {onBench : Nat → Outcome Bench}
    {onBus : BusHandle → Outcome Bus} (inStep : InStep bench bus)
    (rest : ∀ device : BusHandle, bus.devices.get? handle = some device →
      Agree (onBench device.device) (onBus device)) :
    Agree (withDevice handle bench onBench) (withDevice handle bus onBus) := by
  unfold withDevice
  rw [inStep.devices.entries]
  cases live : bus.devices.get? handle with
  | none => exact ⟨rfl, inStep⟩
  | some device => exact rest device live

theorem withWindow_inStep {address : Cell} {length : Nat} {onBench : Bytes → Outcome Bench}
    {onBus : Bytes → Outcome Bus} (inStep : InStep bench bus)
    (rest : ∀ buffer, bus.machine.window? address length = some buffer →
      Agree (onBench buffer) (onBus buffer)) :
    Agree (withWindow address length bench onBench) (withWindow address length bus onBus) := by
  unfold withWindow
  rw [inStep.machine]
  cases granted : bus.machine.window? address length with
  | none => exact ⟨rfl, inStep⟩
  | some buffer => exact rest buffer granted

theorem InStep.onHosts (inStep : InStep bench bus) (calls : List BenchCall) {host : Bus}
    (devices : host.devices = bus.host.devices) (listCode : host.listCode = bus.host.listCode) :
    InStep { bench with host := bench.host.recordAll calls } { bus with host } where
  hosts := { inStep.hosts.of_bus devices listCode with }
  machine := inStep.machine
  interfaces := inStep.interfaces
  devices := inStep.devices
  pipes handle interface live := devices ▸ inStep.pipes handle interface live

def described? (session : Session Bus) (handle : Cell) (pipe : UInt8) : Option Pipe := do
  let interface : BusInterface ← session.interfaces.get? handle
  let known ← session.host.devices[interface.handle.device]?
  known.describedPipes.get? pipe

theorem described?_eq {handle : Cell} {interface : BusInterface} {known : BusDevice}
    (live : bus.interfaces.get? handle = some interface)
    (there : bus.host.devices[interface.handle.device]? = some known) (pipe : UInt8) :
    bus.described? handle pipe = known.describedPipes.get? pipe := by
  simp only [described?, live, there, Option.bind_eq_bind, Option.bind_some]

/-- A transfer that would be refused: its pipe is not there, or leads the other way. -/
def isMisaimed (direction : Direction) (session : Session Bus) : Bool :=
  match TransferOperands.take session.machine.stack with
  | .error _ _ => true
  | .ok operands _ =>
    (session.described? operands.handle operands.pipe).all fun pipe => pipe.direction != direction

def findsFree (session : Session Bus) : Bool :=
  match FindOperands.take session.machine.stack with
  | .error _ _ => true
  | .ok operands _ =>
    (session.host.devices.findIdx?
      (BusDevice.isMatch (.interface operands.vendorId operands.productId))).all fun device =>
        !session.keeps device

/-- The words that a bench can stand in for. It knows nothing of the data of a device, and it lets
two interfaces be opened on one device. -/
def isWithin (session : Session Bus) : Word → Bool
  | .findInterface => session.findsFree
  | .read => session.isMisaimed .input
  | .write => session.isMisaimed .output
  | .control | .request => false
  | .closeInterface | .pipeProperties | .findDevice | .closeDevice => true

/-- Whether a bus tells all that a bench tells. It does not where a pipe is asked after whose
endpoint is numbered eight or above. -/
def tellsInFull (session : Session Bus) : Word → Bool
  | .pipeProperties =>
    match PipeOperands.take session.machine.stack with
    | .error _ _ => true
    | .ok operands _ =>
      (session.described? operands.handle operands.pipe).all fun pipe => pipe.number < 8
  | .findInterface | .closeInterface | .control | .read | .write | .findDevice | .closeDevice
  | .request => true

theorem direction_ne {direction : Direction} {operands : TransferOperands} {stack : List Cell}
    {interface : BusInterface} {known : BusDevice} (misaimed : bus.isMisaimed direction = true)
    (taken : TransferOperands.take bus.machine.stack = .ok operands stack)
    (live : bus.interfaces.get? operands.handle = some interface)
    (there : bus.host.devices[interface.handle.device]? = some known) (pipe : Pipe)
    (described : known.describedPipes.get? operands.pipe = some pipe) :
    pipe.direction ≠ direction := by
  simpa [isMisaimed, taken, described?_eq live there, described] using misaimed

theorem number_lt {operands : PipeOperands} {stack : List Cell} {interface : BusInterface}
    {known : BusDevice} (full : bus.tellsInFull .pipeProperties = true)
    (taken : PipeOperands.take bus.machine.stack = .ok operands stack)
    (live : bus.interfaces.get? operands.handle = some interface)
    (there : bus.host.devices[interface.handle.device]? = some known) (pipe : Pipe)
    (described : known.describedPipes.get? operands.pipe = some pipe) : pipe.number < 8 := by
  simpa [tellsInFull, taken, described?_eq live there, described] using full

theorem pipeProperties_inStep (inStep : InStep bench bus)
    (full : bus.tellsInFull .pipeProperties = true) :
    Agree bench.pipeProperties bus.pipeProperties := by
  refine withOperands_inStep inStep ?_
  intro operands stack taken
  have next := inStep.withStack stack
  refine withInterface_inStep next ?_
  intro interface live
  obtain ⟨known, there, pipes⟩ := inStep.pipes _ _ live
  have onBench := next.hosts.pipeProperties_bench interface.benched there operands.pipe
  have asked := BusDevice.ask_pipes (number_lt full taken live there)
  simp only [onBench, Bus.pipeProperties_eq, pipes, asked]
  cases known.describedPipes.ask operands.pipe with
  | error cause => exact ⟨rfl, next.onHosts _ rfl rfl⟩
  | ok pipe => exact ⟨rfl, (next.onMachine (Machine.pushAll pipe.cells)).onHosts _ rfl rfl⟩

theorem stack_pipeProperties {σ : Type} [NativeLayer σ] {session : Session σ}
    {operands : PipeOperands} {stack : List Cell} {interface : NativeLayer.Interface σ}
    {pipe : Pipe} (taken : PipeOperands.take session.machine.stack = .ok operands stack)
    (live : session.interfaces.get? operands.handle = some interface)
    (told : (Access.pipeProperties interface operands.pipe session.host).1 = .ok pipe) :
    session.pipeProperties.2.machine.stack = pipe.cells.reverse ++ stack := by
  rcases called : Access.pipeProperties interface operands.pipe session.host with ⟨answer, host⟩
  rw [called] at told
  cases told
  simp only [pipeProperties, withOperands, taken, withInterface, live, called, Machine.pushAll]

theorem described?_eq_some {handle : Cell} {pipe : UInt8} {found : Pipe}
    (told : bus.described? handle pipe = some found) :
    ∃ (interface : BusInterface) (known : BusDevice),
      bus.interfaces.get? handle = some interface ∧
      bus.host.devices[interface.handle.device]? = some known ∧
      known.describedPipes.get? pipe = some found := by
  simp only [described?, Option.bind_eq_bind, Option.bind_eq_some_iff] at told
  obtain ⟨interface, live, known, there, described⟩ := told
  exact ⟨interface, known, live, there, described⟩

theorem exists_pipe_of_cut (cut : bus.tellsInFull .pipeProperties = false) :
    ∃ operands stack pipe, PipeOperands.take bus.machine.stack = .ok operands stack ∧
      bus.described? operands.handle operands.pipe = some pipe ∧ ¬pipe.number < 8 := by
  unfold tellsInFull at cut
  cases taken : PipeOperands.take bus.machine.stack with
  | error fault stack => simp [taken] at cut
  | ok operands stack =>
      cases told : bus.described? operands.handle operands.pipe with
      | none => simp [taken, told] at cut
      | some pipe =>
          exact ⟨operands, stack, pipe, rfl, told, by simpa [taken, told] using cut⟩

theorem pipeProperties_apart (inStep : InStep bench bus)
    (cut : bus.tellsInFull .pipeProperties = false) :
    bench.pipeProperties.2.machine ≠ bus.pipeProperties.2.machine := by
  obtain ⟨operands, stack, pipe, taken, told, large⟩ := exists_pipe_of_cut cut
  obtain ⟨interface, known, live, there, described⟩ := described?_eq_some told
  obtain ⟨other, otherThere, pipes⟩ := inStep.pipes _ _ live
  cases there.symm.trans otherThere
  have onBench : bench.pipeProperties.2.machine.stack = pipe.cells.reverse ++ stack := by
    refine stack_pipeProperties (inStep.machine ▸ taken)
      ((inStep.interfaces.entries _).trans (congrArg (Option.map _) live)) ?_
    rw [inStep.hosts.pipeProperties_bench _ there, PipeTable.ask, described]
    rfl
  have onBus : bus.pipeProperties.2.machine.stack = pipe.cutNumber.cells.reverse ++ stack := by
    refine stack_pipeProperties taken live ?_
    rw [Bus.pipeProperties_eq, pipes, PipeTable.ask, known.get?_pipes, described]
    rfl
  intro same
  rw [same, onBus, List.append_cancel_right_eq, List.reverse_inj] at onBench
  exact large (Pipe.number_lt_of_cells_eq onBench.symm)

theorem read_inStep (inStep : InStep bench bus) (misaimed : bus.isMisaimed .input = true) :
    Agree bench.read bus.read := by
  refine withOperands_inStep inStep ?_
  intro operands stack taken
  have next := inStep.withStack stack
  refine withInterface_inStep next ?_
  intro interface live
  obtain ⟨known, there, pipes⟩ := inStep.pipes _ _ live
  have refused := direction_ne misaimed taken live there
  refine withWindow_inStep next ?_
  intro buffer granted
  have onBench := next.hosts.read_bench interface.benched there refused buffer
  have onBus := Bus.read_of_refused (Bus.route_undescribed pipes refused) buffer
    (bus.withStack stack).host
  simp only [onBench, onBus]
  exact ⟨rfl, (next.onMachine (Machine.store operands.address buffer)).onHosts _ rfl rfl⟩

theorem write_inStep (inStep : InStep bench bus) (misaimed : bus.isMisaimed .output = true) :
    Agree bench.write bus.write := by
  refine withOperands_inStep inStep ?_
  intro operands stack taken
  have next := inStep.withStack stack
  refine withInterface_inStep next ?_
  intro interface live
  obtain ⟨known, there, pipes⟩ := inStep.pipes _ _ live
  have refused := direction_ne misaimed taken live there
  refine withWindow_inStep next ?_
  intro data granted
  have onBench := next.hosts.write_bench interface.benched there refused data
  have onBus := Bus.write_of_refused (Bus.route_undescribed pipes refused) data
    (bus.withStack stack).host
  simp only [onBench, onBus]
  exact ⟨rfl, next.onHosts _ rfl rfl⟩

theorem InStep.addInterface (inStep : InStep bench bus) (interface : BusInterface)
    {known : BusDevice} (there : bus.host.devices[interface.handle.device]? = some known)
    (pipes : interface.pipes = known.pipes) :
    InStep { bench with interfaces := (bench.interfaces.insert interface.benched).2 }
      { bus with interfaces := (bus.interfaces.insert interface).2 } where
  hosts := inStep.hosts
  machine := inStep.machine
  interfaces := inStep.interfaces.insert interface
  devices := inStep.devices
  pipes handle other live := by
    rw [HandleTable.get?_insert] at live
    by_cases newest : handle = bus.interfaces.next
    · rw [if_pos newest] at live
      cases live
      exact ⟨known, there, pipes⟩
    · rw [if_neg newest] at live
      exact inStep.pipes handle other live

theorem InStep.dropInterface (inStep : InStep bench bus) (handle : Cell) :
    InStep { bench with interfaces := bench.interfaces.erase handle }
      { bus with interfaces := bus.interfaces.erase handle } where
  hosts := inStep.hosts
  machine := inStep.machine
  interfaces := inStep.interfaces.erase handle
  devices := inStep.devices
  pipes other interface live := by
    rw [HandleTable.get?_erase] at live
    by_cases same : other = handle
    · rw [if_pos same] at live
      cases live
    · rw [if_neg same] at live
      exact inStep.pipes other interface live

theorem findInterface_inStep (inStep : InStep bench bus) (owned : Owned bus)
    (findsFree : bus.findsFree = true) : Agree bench.findInterface bus.findInterface := by
  refine withOperands_inStep inStep ?_
  intro operands stack taken
  have next := inStep.withStack stack
  have free : ∀ device, (bus.withStack stack).host.devices.findIdx?
      (BusDevice.isMatch (.interface operands.vendorId operands.productId)) = some device →
      (bus.withStack stack).host.holds device = false := by
    intro device first
    have unheld : bus.keeps device = false := by
      change bus.host.devices.findIdx? _ = some device at first
      simpa [Session.findsFree, taken, first] using findsFree
    rwa [← owned.holds_eq] at unheld
  obtain ⟨calls, onBench⟩ := next.hosts.findInterface_bench operands.vendorId operands.productId
  have onBus := next.hosts.findInterface_bus owned.fresh free
  cases first : (bus.withStack stack).host.devices.findIdx?
    (BusDevice.isMatch (.interface operands.vendorId operands.productId)) with
  | none =>
      rw [first] at onBus onBench
      simp only [onBench, onBus, Option.map_none]
      exact ⟨rfl, (next.onMachine (Machine.push notFound)).onHosts _ rfl rfl⟩
  | some device =>
      rw [first] at onBus onBench
      obtain ⟨known, there, onBus⟩ := onBus
      have kept := dropDisplaced_same NativeLayer.dropInterface bus.interfaces
        (bus.host.claimedNew device) fun displaced => Bus.releaseInterface_same displaced _
      have stepped := (next.onHosts calls kept.1 kept.2).addInterface
        ⟨bus.host.nextOn device, 0, known.pipes, true⟩ (kept.1 ▸ there) rfl
      simp only [onBench, onBus, Option.map_some]
      refine ⟨rfl, ?_⟩
      rw [Bench.dropDisplaced_idle _ _ fun _ => rfl]
      exact { stepped with
        machine := by simp only [push, HandleTable.insert, next.interfaces.next, next.machine] }

theorem findDevice_inStep (inStep : InStep bench bus) : Agree bench.findDevice bus.findDevice := by
  refine withOperands_inStep inStep ?_
  intro operands stack taken
  have next := inStep.withStack stack
  obtain ⟨calls, onBench⟩ := next.hosts.findDevice_bench operands.vendorId operands.productId
  have onBus := next.hosts.findDevice_bus operands.vendorId operands.productId
  cases first : (bus.withStack stack).host.devices.findIdx?
    (BusDevice.isMatch (.device operands.vendorId operands.productId)) with
  | none =>
      rw [first] at onBus onBench
      simp only [onBench, onBus]
      exact ⟨rfl, (next.onMachine (Machine.push notFound)).onHosts _ rfl rfl⟩
  | some device =>
      rw [first] at onBus onBench
      have kept := dropDisplaced_same NativeLayer.dropDevice bus.devices
        (bus.host.opened device) fun displaced => ⟨rfl, rfl⟩
      have stepped := next.onHosts calls kept.1 kept.2
      simp only [onBench, onBus]
      refine ⟨rfl, ?_⟩
      rw [Bench.dropDisplaced_idle _ _ fun _ => rfl]
      exact { stepped with
        machine := by simp only [push, HandleTable.insert, next.devices.next, next.machine]
        devices := next.devices.insert (bus.host.nextOn device) }

theorem closeInterface_inStep (inStep : InStep bench bus) (owned : Owned bus) :
    Agree bench.closeInterface bus.closeInterface := by
  refine withOperands_inStep inStep ?_
  intro handle stack taken
  have next := inStep.withStack stack
  refine withInterface_inStep next ?_
  intro interface live
  obtain ⟨known, there, -⟩ := inStep.pipes _ _ live
  have holder := owned.holder live
  obtain ⟨native, pipes, rfl⟩ := owned.exists_interface live
  have onBench := next.hosts.closeInterface_bench native.device
  obtain ⟨host, onBus, devices, listCode⟩ := next.hosts.closeInterface_bus pipes there holder
  simp only [BusInterface.benched, onBench, onBus]
  exact ⟨rfl, (next.dropInterface handle).onHosts _ devices listCode⟩

theorem closeDevice_inStep (inStep : InStep bench bus) :
    Agree bench.closeDevice bus.closeDevice := by
  refine withOperands_inStep inStep ?_
  intro handle stack taken
  have next := inStep.withStack stack
  refine withDevice_inStep next ?_
  intro device live
  have devices : (bus.host.closeDevice device).devices = bus.host.devices := rfl
  have stepped := next.onHosts [.releaseDevice device.device] devices rfl
  exact ⟨rfl, { stepped with devices := next.devices.erase handle }⟩

theorem run_inStep (inStep : InStep bench bus) (owned : Owned bus) {word : Word}
    (within : bus.isWithin word = true) (full : bus.tellsInFull word = true) :
    Agree (bench.run word) (bus.run word) := by
  cases word with
  | findInterface => exact findInterface_inStep inStep owned within
  | closeInterface => exact closeInterface_inStep inStep owned
  | control => cases within
  | pipeProperties => exact pipeProperties_inStep inStep full
  | read => exact read_inStep inStep within
  | write => exact write_inStep inStep within
  | findDevice => exact findDevice_inStep inStep
  | closeDevice => exact closeDevice_inStep inStep
  | request => cases within

theorem run_apart (inStep : InStep bench bus) {word : Word}
    (cut : bus.tellsInFull word = false) :
    (bench.run word).2.machine ≠ (bus.run word).2.machine := by
  cases word with
  | pipeProperties => exact pipeProperties_apart inStep cut
  | findInterface | closeInterface | control | read | write | findDevice | closeDevice
  | request => cases cut

end

theorem InStep.start {benchDevices : List BenchDevice} {busDevices : List BusDevice}
    (mirrored : List.Forall₂ Mirrors benchDevices busDevices)
    (faultless : ∀ device ∈ busDevices, device.IsFaultless) (machine : Machine) :
    InStep (start { devices := benchDevices } machine)
      (start { devices := busDevices } machine) where
  hosts := ⟨mirrored, rfl, faultless, Int.le_refl 0⟩
  machine := rfl
  interfaces := ⟨rfl, fun _ => rfl⟩
  devices := ⟨rfl, fun _ => rfl⟩
  pipes := by
    intro handle interface live
    cases live

end Session

inductive Move where
  | run (word : Word)
  | put (machine : Machine)

def Move.event {σ : Type} [ChangingHost σ] : Move → Event σ
  | .run word => .word word
  | .put machine => .machine machine

/-- What a program sees of a word: how it ended, and the machine that it left. -/
def Step.seen {σ : Type} [NativeLayer σ] (step : Step σ) :
    Word × Except WordFault Unit × Machine :=
  (step.word, step.result, step.after.machine)

namespace Session

theorem history_seen_eq_iff (moves : List Move) {bench : Session Bench} {bus : Session Bus}
    (inStep : InStep bench bus) (owned : Owned bus)
    (within : ∀ step ∈ bus.history (moves.map Move.event), step.before.isWithin step.word = true) :
    (bench.history (moves.map Move.event)).map Step.seen =
        (bus.history (moves.map Move.event)).map Step.seen ↔
      ∀ step ∈ bus.history (moves.map Move.event),
        step.before.tellsInFull step.word = true := by
  induction moves generalizing bench bus with
  | nil => simp [history]
  | cons move rest ih =>
      have later : ∀ step ∈ (bus.apply move.event).history (rest.map Move.event),
          step.before.isWithin step.word = true :=
        fun step member => within step (List.mem_append_right _ member)
      have kept := owned_apply move.event bus owned
      cases move with
      | run word =>
          have now : bus.isWithin word = true := within (bus.step word)
            (List.mem_append_left _ (List.mem_singleton.mpr rfl))
          simp only [List.map_cons, Move.event, history, steps, List.singleton_append,
            List.cons.injEq, List.forall_mem_cons]
          cases full : bus.tellsInFull word with
          | true =>
              have agree := run_inStep inStep owned now full
              have first : (bench.step word).seen = (bus.step word).seen := by
                simp only [Step.seen, step, agree.result, agree.inStep.machine]
              exact and_congr (iff_of_true first full) (ih agree.inStep kept later)
          -- The first step that is cut ends the likeness, whatever comes after it.
          | false =>
              have apart : (bench.step word).seen ≠ (bus.step word).seen := by
                intro same
                simp only [Step.seen, step, Prod.mk.injEq] at same
                exact run_apart inStep full same.2.2
              have untold : ¬(bus.step word).before.tellsInFull (bus.step word).word = true :=
                Bool.not_eq_true _ ▸ full
              exact iff_of_false (fun same => apart same.1) fun all => untold all.1
      | put machine =>
          have changed : InStep { bench with machine } { bus with machine } :=
            { inStep with machine := rfl }
          exact ih changed kept later

/-- A bench whose devices mirror those of a bus tells the same of every word that moves no data,
exactly as long as nobody asks after an endpoint numbered eight or above. -/
theorem bench_stands_in_iff {benchDevices : List BenchDevice} {busDevices : List BusDevice}
    (mirrored : List.Forall₂ Mirrors benchDevices busDevices)
    (faultless : ∀ device ∈ busDevices, device.IsFaultless) (machine : Machine)
    (moves : List Move)
    (within : ∀ step ∈ (start ({ devices := busDevices } : Bus) machine).history
      (moves.map Move.event), step.before.isWithin step.word = true) :
    ((start ({ devices := benchDevices } : Bench) machine).history
        (moves.map Move.event)).map Step.seen =
      ((start ({ devices := busDevices } : Bus) machine).history
        (moves.map Move.event)).map Step.seen ↔
      ∀ step ∈ (start ({ devices := busDevices } : Bus) machine).history
        (moves.map Move.event), step.before.tellsInFull step.word = true :=
  history_seen_eq_iff moves (InStep.start mirrored faultless machine) (.start busDevices machine)
    within

def probeMoves : List Move :=
  [.put { stack := [0x5740, 0x0483] }, .run .findInterface, .put { stack := [1, 1] },
    .run .pipeProperties, .put { stack := [1, 2, 0, 0] }, .run .read, .put { stack := [1] },
    .run .closeInterface, .put { stack := [0x5740, 0x0483] }, .run .findInterface]

theorem probe_stands_in :
    List.Forall₂ Mirrors [.probe] [({} : BusDevice)] ∧
      ((start ({ devices := [.probe] } : Bench) {}).history (probeMoves.map Move.event)).map
          Step.seen =
        ((start ({ devices := [{}] } : Bus) {}).history (probeMoves.map Move.event)).map
          Step.seen := by
  have mirrored : List.Forall₂ Mirrors [.probe] [({} : BusDevice)] :=
    .cons ⟨rfl, rfl, rfl, by decide⟩ .nil
  have faultless : ∀ device ∈ [({} : BusDevice)], device.IsFaultless := by
    intro device member point
    rw [List.mem_singleton.mp member]
    rfl
  exact ⟨mirrored,
    (bench_stands_in_iff mirrored faultless {} probeMoves (by decide)).mpr (by decide)⟩

def ninthInput : BusDevice where
  interfaces := [⟨0, [⟨0, [⟨0x89, 2, 64, 0⟩]⟩]⟩]

def ninthInputOnBench : BenchDevice :=
  { BenchDevice.probe with pipes := ⟨64, [⟨.input, 9, .bulk, 64, 0⟩]⟩ }

def ninthInputMoves : List Move :=
  [.put { stack := [0x5740, 0x0483] }, .run .findInterface, .put { stack := [1, 1] },
    .run .pipeProperties]

/-- The bench tells of the ninth input and the bus of a first one. -/
theorem ninth_input_renumbered :
    let bench := (start ({ devices := [ninthInputOnBench] } : Bench) {}).history
      (ninthInputMoves.map Move.event)
    let bus := (start ({ devices := [ninthInput] } : Bus) {}).history
      (ninthInputMoves.map Move.event)
    List.Forall₂ Mirrors [ninthInputOnBench] [ninthInput] ∧
      (∀ device ∈ [ninthInput], device.IsFaultless) ∧
      (∀ step ∈ bus, step.before.isWithin step.word = true) ∧
      bench.map Step.seen = [(.findInterface, .ok (), { stack := [-1, 1] }),
        (.pipeProperties, .ok (), { stack := [0, 64, 2, 9, 1] })] ∧
      bus.map Step.seen = [(.findInterface, .ok (), { stack := [-1, 1] }),
        (.pipeProperties, .ok (), { stack := [0, 64, 2, 1, 1] })] ∧
      bench.map Step.seen ≠ bus.map Step.seen := by
  have mirrored : List.Forall₂ Mirrors [ninthInputOnBench] [ninthInput] :=
    .cons ⟨rfl, rfl, rfl, by decide⟩ .nil
  have faultless : ∀ device ∈ [ninthInput], device.IsFaultless := by
    intro device member point
    rw [List.mem_singleton.mp member]
    rfl
  exact ⟨mirrored, faultless, by decide, by decide, by decide, by decide⟩

end Session

end UsbHost
