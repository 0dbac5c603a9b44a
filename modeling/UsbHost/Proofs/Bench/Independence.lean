import UsbHost.Proofs.Bench.Locality
import UsbHost.Proofs.Words.Operands

/-!
Independent words. A word that uses a handle reads one entry and one device, and changes no other.
So two words on handles of different devices, each on a machine of its own, may run in either order.
-/

namespace UsbHost

namespace Session

structure Target where
  kind : HandleKind
  handle : Cell
  device : Nat

/-- What a word does: how it ends, what it leaves on its machine, whether its entry is gone, and
what it changes on its device and adds to the log. -/
structure Effect where
  result : Except WordFault Unit
  machine : Machine
  closes : Bool
  change : BenchDevice → BenchDevice
  calls : List BenchCall

def withMachine (machine : Machine) (session : Session Bench) : Session Bench :=
  { session with machine }

def erase (kind : HandleKind) (handle : Cell) (session : Session Bench) : Session Bench :=
  match kind with
  | .interface => { session with interfaces := session.interfaces.erase handle }
  | .device => { session with devices := session.devices.erase handle }

def Effect.on (effect : Effect) (target : Target) (session : Session Bench) : Outcome Bench :=
  (effect.result,
    { if effect.closes then session.erase target.kind target.handle else session with
      machine := effect.machine
      host := session.host.touch target.device effect.change effect.calls })

def SameEffect (target : Target) (session other : Session Bench) (first second : Outcome Bench) :
    Prop :=
  ∃ effect : Effect, first = effect.on target session ∧ second = effect.on target other

section

variable {target : Target} {session other : Session Bench} {machine : Machine}

theorem SameEffect.of_fault (fault : WordFault) :
    SameEffect target session other (.error fault, session.withMachine machine)
      (.error fault, other.withMachine machine) := by
  refine ⟨⟨.error fault, machine, false, id, []⟩, ?_, ?_⟩ <;>
    simp [Effect.on, Bench.touch, withMachine]

theorem withOperands_same {α : Type} (word : Word) {take : Take α} {handleOf : α → Cell}
    {next : α → Session Bench → Outcome Bench} {handle : Cell}
    (takes : word.takeHandle = (fun operands => some (handleOf operands)) <$> take)
    (top : machine.stack.head? = some handle)
    (rest : ∀ operands stack, handleOf operands = handle →
      SameEffect target session other
        (next operands (session.withMachine { machine with stack }))
        (next operands (other.withMachine { machine with stack }))) :
    SameEffect target session other (withOperands take (session.withMachine machine) next)
      (withOperands take (other.withMachine machine) next) := by
  unfold withOperands
  simp only [withMachine]
  cases taken : take machine.stack with
  | error fault stack => exact .of_fault fault
  | ok operands stack =>
      have first : word.takeHandle machine.stack = .ok (some (handleOf operands)) stack := by
        rw [takes]
        exact Take.map_ok _ taken
      have head := Word.head_of_takeHandle first
      rw [top] at head
      exact rest operands stack (Option.some.inj head).symm

theorem withWindow_same {address : Cell} {length : Nat} {onFirst onSecond : Bytes → Outcome Bench}
    (rest : ∀ buffer, SameEffect target session other (onFirst buffer) (onSecond buffer)) :
    SameEffect target session other
      (withWindow address length (session.withMachine machine) onFirst)
      (withWindow address length (other.withMachine machine) onSecond) := by
  unfold withWindow
  simp only [withMachine]
  cases granted : machine.window? address length with
  | none => exact .of_fault _
  | some buffer => exact rest buffer

end

structure OnInterface (handle : Cell) (interface : BenchInterface) (session other : Session Bench) :
    Prop where
  live : session.interfaces.get? handle = some interface
  liveToo : other.interfaces.get? handle = some interface
  hosts : Bench.LooksSame interface.device session.host other.host

section

variable {handle : Cell} {interface : BenchInterface} {session other : Session Bench}
  {machine : Machine}

theorem OnInterface.withInterface_same (on : OnInterface handle interface session other)
    {onFirst onSecond : BenchInterface → Outcome Bench}
    (rest : SameEffect ⟨.interface, handle, interface.device⟩ session other (onFirst interface)
      (onSecond interface)) :
    SameEffect ⟨.interface, handle, interface.device⟩ session other
      (withInterface handle (session.withMachine machine) onFirst)
      (withInterface handle (other.withMachine machine) onSecond) := by
  unfold withInterface
  simp only [withMachine, on.live, on.liveToo]
  exact rest

theorem closeInterface_same (on : OnInterface handle interface session other)
    (top : machine.stack.head? = some handle) :
    SameEffect ⟨.interface, handle, interface.device⟩ session other
      (session.withMachine machine).closeInterface (other.withMachine machine).closeInterface := by
  refine withOperands_same .closeInterface rfl top ?_
  rintro _ stack rfl
  refine on.withInterface_same ?_
  obtain ⟨answer, change, calls, onSession, onOther⟩ := Bench.closeInterface_same on.hosts
  simp only [withMachine, onSession, onOther]
  cases answer with
  | error failure =>
      simp only [HandleTable.put_erase on.live, HandleTable.put_erase on.liveToo]
      exact ⟨⟨_, _, false, change, calls⟩, rfl, rfl⟩
  | ok closed => exact ⟨⟨_, _, true, change, calls⟩, rfl, rfl⟩

theorem control_same (on : OnInterface handle interface session other)
    (top : machine.stack.head? = some handle) :
    SameEffect ⟨.interface, handle, interface.device⟩ session other
      (session.withMachine machine).control (other.withMachine machine).control := by
  refine withOperands_same .control rfl top ?_
  rintro operands stack rfl
  refine on.withInterface_same ?_
  refine withWindow_same ?_
  intro buffer
  obtain ⟨⟨answer, data⟩, change, calls, onSession, onOther⟩ :=
    Bench.control_same on.hosts operands.setup buffer
  simp only [withMachine, onSession, onOther]
  cases answer with
  | error failure => exact ⟨⟨_, _, false, change, calls⟩, rfl, rfl⟩
  | ok count => exact ⟨⟨_, _, false, change, calls⟩, rfl, rfl⟩

theorem pipeProperties_same (on : OnInterface handle interface session other)
    (top : machine.stack.head? = some handle) :
    SameEffect ⟨.interface, handle, interface.device⟩ session other
      (session.withMachine machine).pipeProperties (other.withMachine machine).pipeProperties := by
  refine withOperands_same .pipeProperties rfl top ?_
  rintro operands stack rfl
  refine on.withInterface_same ?_
  obtain ⟨answer, change, calls, onSession, onOther⟩ :=
    Bench.pipeProperties_same on.hosts operands.pipe
  simp only [withMachine, onSession, onOther]
  cases answer with
  | error failure => exact ⟨⟨_, _, false, change, calls⟩, rfl, rfl⟩
  | ok pipe => exact ⟨⟨_, _, false, change, calls⟩, rfl, rfl⟩

theorem read_same (on : OnInterface handle interface session other)
    (top : machine.stack.head? = some handle) :
    SameEffect ⟨.interface, handle, interface.device⟩ session other
      (session.withMachine machine).read (other.withMachine machine).read := by
  refine withOperands_same .read rfl top ?_
  rintro operands stack rfl
  refine on.withInterface_same ?_
  refine withWindow_same ?_
  intro buffer
  obtain ⟨⟨answer, data⟩, change, calls, onSession, onOther⟩ :=
    Bench.read_same on.hosts operands.pipe buffer
  simp only [withMachine, onSession, onOther]
  cases answer with
  | error failure => exact ⟨⟨_, _, false, change, calls⟩, rfl, rfl⟩
  | ok count => exact ⟨⟨_, _, false, change, calls⟩, rfl, rfl⟩

theorem write_same (on : OnInterface handle interface session other)
    (top : machine.stack.head? = some handle) :
    SameEffect ⟨.interface, handle, interface.device⟩ session other
      (session.withMachine machine).write (other.withMachine machine).write := by
  refine withOperands_same .write rfl top ?_
  rintro operands stack rfl
  refine on.withInterface_same ?_
  refine withWindow_same ?_
  intro data
  obtain ⟨answer, change, calls, onSession, onOther⟩ :=
    Bench.write_same on.hosts operands.pipe data
  simp only [withMachine, onSession, onOther]
  cases answer with
  | error failure => exact ⟨⟨_, _, false, change, calls⟩, rfl, rfl⟩
  | ok done => exact ⟨⟨_, _, false, change, calls⟩, rfl, rfl⟩

end

structure OnDevice (handle : Cell) (device : Nat) (session other : Session Bench) : Prop where
  live : session.devices.get? handle = some device
  liveToo : other.devices.get? handle = some device
  hosts : Bench.LooksSame device session.host other.host

section

variable {handle : Cell} {device : Nat} {session other : Session Bench} {machine : Machine}

theorem OnDevice.withDevice_same (on : OnDevice handle device session other)
    {onFirst onSecond : Nat → Outcome Bench}
    (rest : SameEffect ⟨.device, handle, device⟩ session other (onFirst device)
      (onSecond device)) :
    SameEffect ⟨.device, handle, device⟩ session other
      (withDevice handle (session.withMachine machine) onFirst)
      (withDevice handle (other.withMachine machine) onSecond) := by
  unfold withDevice
  simp only [withMachine, on.live, on.liveToo]
  exact rest

theorem closeDevice_same (on : OnDevice handle device session other)
    (top : machine.stack.head? = some handle) :
    SameEffect ⟨.device, handle, device⟩ session other
      (session.withMachine machine).closeDevice (other.withMachine machine).closeDevice := by
  refine withOperands_same .closeDevice rfl top ?_
  rintro _ stack rfl
  refine on.withDevice_same ?_
  have released (bench : Bench) : Access.closeDevice (σ := Bench) device bench =
      bench.touch device id [.releaseDevice device] := by
    rw [Bench.touch_id]
    rfl
  simp only [withMachine, released]
  exact ⟨⟨_, _, true, id, _⟩, rfl, rfl⟩

theorem request_same (on : OnDevice handle device session other)
    (top : machine.stack.head? = some handle) :
    SameEffect ⟨.device, handle, device⟩ session other
      (session.withMachine machine).request (other.withMachine machine).request := by
  refine withOperands_same .request rfl top ?_
  rintro operands stack rfl
  refine on.withDevice_same ?_
  refine withWindow_same ?_
  intro buffer
  obtain ⟨⟨answer, data⟩, change, calls, onSession, onOther⟩ :=
    Bench.request_same on.hosts operands.setup buffer
  simp only [withMachine, onSession, onOther]
  cases answer with
  | error failure => exact ⟨⟨_, _, false, change, calls⟩, rfl, rfl⟩
  | ok done => exact ⟨⟨_, _, false, change, calls⟩, rfl, rfl⟩

end

def bound? (kind : HandleKind) (handle : Cell) (session : Session Bench) : Option Nat :=
  match kind with
  | .interface => (session.interfaces.get? handle).map BenchInterface.device
  | .device => session.devices.get? handle

/-- The device that a word is about to use, which is the one behind the handle on top. -/
def aimsAt? (session : Session Bench) (word : Word) (machine : Machine) : Option Nat := do
  let kind ← word.kind?
  let handle ← machine.stack.head?
  session.bound? kind handle

def runOn (machine : Machine) (word : Word) (session : Session Bench) : Outcome Bench :=
  (session.withMachine machine).run word

structure Aims (session : Session Bench) (word : Word) (machine : Machine) (target : Target) :
    Prop where
  uses : word.kind? = some target.kind
  top : machine.stack.head? = some target.handle
  bound : session.bound? target.kind target.handle = some target.device

theorem Aims.runOn_same {target : Target} {session other : Session Bench} {word : Word}
    {machine : Machine} (aims : session.Aims word machine target)
    (entries : other.object? target.kind target.handle =
      session.object? target.kind target.handle)
    (hosts : Bench.LooksSame target.device session.host other.host) :
    SameEffect target session other (session.runOn machine word) (other.runOn machine word) := by
  obtain ⟨uses, top, bound⟩ := aims
  obtain ⟨kind, handle, device⟩ := target
  cases kind with
  | interface =>
      obtain ⟨interface, live, rfl⟩ := Option.map_eq_some_iff.mp bound
      have liveToo : other.interfaces.get? handle = some interface := by
        simpa [object?, live] using entries
      have on : OnInterface handle interface session other := ⟨live, liveToo, hosts⟩
      cases word with
      | findInterface | findDevice | closeDevice | request => cases uses
      | closeInterface => exact closeInterface_same on top
      | control => exact control_same on top
      | pipeProperties => exact pipeProperties_same on top
      | read => exact read_same on top
      | write => exact write_same on top
  | device =>
      have live : session.devices.get? handle = some device := bound
      have liveToo : other.devices.get? handle = some device := by
        simpa [object?, live] using entries
      have on : OnDevice handle device session other := ⟨live, liveToo, hosts⟩
      cases word with
      | findInterface | findDevice | closeInterface | control | pipeProperties | read | write =>
          cases uses
      | closeDevice => exact closeDevice_same on top
      | request => exact request_same on top

theorem Effect.object?_on (effect : Effect) (target : Target) (session : Session Bench)
    {kind : HandleKind} {handle : Cell} (apart : kind ≠ target.kind ∨ handle ≠ target.handle) :
    (effect.on target session).2.object? kind handle = session.object? kind handle := by
  obtain ⟨closedKind, closed, device⟩ := target
  obtain ⟨result, machine, closes, change, calls⟩ := effect
  cases closes with
  | false => rfl
  | true =>
      cases kind with
      | interface =>
          cases closedKind with
          | interface =>
              have other : handle ≠ closed := apart.resolve_left (· rfl)
              simp [Effect.on, erase, object?, other]
          | device => rfl
      | device =>
          cases closedKind with
          | interface => rfl
          | device =>
              have other : handle ≠ closed := apart.resolve_left (· rfl)
              simp [Effect.on, erase, object?, other]

theorem Effect.on_comm (first second : Effect) (firstTarget secondTarget : Target)
    (session : Session Bench) :
    let one := (second.on secondTarget (first.on firstTarget session).2).2
    let other := (first.on firstTarget (second.on secondTarget session).2).2
    one.interfaces = other.interfaces ∧ one.devices = other.devices := by
  obtain ⟨firstKind, firstHandle, firstDevice⟩ := firstTarget
  obtain ⟨secondKind, secondHandle, secondDevice⟩ := secondTarget
  obtain ⟨firstResult, firstMachine, firstCloses, firstChange, firstCalls⟩ := first
  obtain ⟨secondResult, secondMachine, secondCloses, secondChange, secondCalls⟩ := second
  cases firstCloses <;> cases secondCloses <;> cases firstKind <;> cases secondKind <;>
    simp [Effect.on, erase, HandleTable.erase_comm]

/-- Two words run in both orders: `first` and then `second`, or `early`, which is the second word
before the other, and then `late`. -/
structure Interchange (session : Session Bench) (first second early late : Outcome Bench) :
    Prop where
  results : first.1 = late.1 ∧ second.1 = early.1
  machines : first.2.machine = late.2.machine ∧ second.2.machine = early.2.machine
  interfaces : second.2.interfaces = late.2.interfaces
  devices : second.2.devices = late.2.devices
  states : second.2.host.devices = late.2.host.devices
  faults : second.2.host.faults = late.2.host.faults
  calls : ∃ firstCalls secondCalls,
    first.2.host.calls = session.host.calls ++ firstCalls ∧
    second.2.host.calls = session.host.calls ++ firstCalls ++ secondCalls ∧
    early.2.host.calls = session.host.calls ++ secondCalls ∧
    late.2.host.calls = session.host.calls ++ secondCalls ++ firstCalls

theorem interchange_of_effects {session : Session Bench} {first second : Effect}
    {firstTarget secondTarget : Target} (apart : firstTarget.device ≠ secondTarget.device) :
    Interchange session (first.on firstTarget session)
      (second.on secondTarget (first.on firstTarget session).2) (second.on secondTarget session)
      (first.on firstTarget (second.on secondTarget session).2) := by
  obtain ⟨interfaces, devices⟩ := first.on_comm second firstTarget secondTarget session
  refine ⟨⟨rfl, rfl⟩, ⟨rfl, rfl⟩, interfaces, devices, ?_, rfl, first.calls, second.calls, rfl, rfl,
    rfl, rfl⟩
  exact List.modify_modify_ne _ _ session.host.devices apart

theorem aims_of_aimsAt? {session : Session Bench} {word : Word} {machine : Machine} {device : Nat}
    (aims : session.aimsAt? word machine = some device) :
    ∃ kind handle, session.Aims word machine ⟨kind, handle, device⟩ := by
  obtain ⟨kind, uses, aims⟩ := Option.bind_eq_some_iff.mp aims
  obtain ⟨handle, top, bound⟩ := Option.bind_eq_some_iff.mp aims
  exact ⟨kind, handle, uses, top, bound⟩

theorem Aims.runOn_after {session : Session Bench} {word : Word} {machine : Machine}
    {target elsewhere : Target} (aims : session.Aims word machine target)
    (away : session.bound? elsewhere.kind elsewhere.handle = some elsewhere.device)
    (apart : elsewhere.device ≠ target.device) (effect : Effect) :
    SameEffect target session (effect.on elsewhere session).2 (session.runOn machine word)
      ((effect.on elsewhere session).2.runOn machine word) := by
  have otherEntry : target.kind ≠ elsewhere.kind ∨ target.handle ≠ elsewhere.handle := by
    by_cases sameKind : target.kind = elsewhere.kind
    · refine Or.inr ?_
      intro sameHandle
      rw [← sameKind, ← sameHandle, aims.bound] at away
      exact apart (Option.some.inj away).symm
    · exact Or.inl sameKind
  exact aims.runOn_same (effect.object?_on elsewhere session otherEntry)
    (Bench.looksSame_touch apart effect.change effect.calls session.host)

/-- Two words that use the handles of different devices, each on its own machine, may change
places. -/
theorem independent_words_commute (session : Session Bench) (first second : Word)
    (firstMachine secondMachine : Machine) (firstDevice secondDevice : Nat)
    (aimsFirst : session.aimsAt? first firstMachine = some firstDevice)
    (aimsSecond : session.aimsAt? second secondMachine = some secondDevice)
    (apart : firstDevice ≠ secondDevice) :
    Interchange session (session.runOn firstMachine first)
      ((session.runOn firstMachine first).2.runOn secondMachine second)
      (session.runOn secondMachine second)
      ((session.runOn secondMachine second).2.runOn firstMachine first) := by
  obtain ⟨firstKind, firstHandle, firstAims⟩ := aims_of_aimsAt? aimsFirst
  obtain ⟨secondKind, secondHandle, secondAims⟩ := aims_of_aimsAt? aimsSecond
  obtain ⟨alone, ranAlone, -⟩ := firstAims.runOn_same rfl ⟨rfl, rfl⟩
  -- What the first word does alone tells what the second one meets, and the other way around.
  obtain ⟨secondEffect, ranEarly, ranSecond⟩ :=
    secondAims.runOn_after firstAims.bound apart alone
  obtain ⟨firstEffect, ranFirst, ranLate⟩ :=
    firstAims.runOn_after secondAims.bound (Ne.symm apart) secondEffect
  rw [← ranAlone, ranFirst] at ranSecond
  rw [ranEarly, ranLate, ranFirst, ranSecond]
  exact interchange_of_effects apart

def twoProbes : Session Bench :=
  (start ({ devices := [{ BenchDevice.probe with readQueue := [1, 2, 3] }, .plain 1 2] } : Bench)
    {}).advance
      [.machine { stack := [0x5740, 0x0483] }, .word .findInterface, .machine { stack := [2, 1] },
        .word .findInterface, .change (.fail .interfaceClose .timeout)]

theorem two_probes_commute :
    twoProbes.aimsAt? .read { stack := [1, 1, 2, 0], memory := Bytes.zeros 4 } = some 0 ∧
      twoProbes.aimsAt? .closeInterface { stack := [2] } = some 1 ∧
      Interchange twoProbes
        (twoProbes.runOn { stack := [1, 1, 2, 0], memory := Bytes.zeros 4 } .read)
        ((twoProbes.runOn { stack := [1, 1, 2, 0], memory := Bytes.zeros 4 } .read).2.runOn
          { stack := [2] } .closeInterface)
        (twoProbes.runOn { stack := [2] } .closeInterface)
        ((twoProbes.runOn { stack := [2] } .closeInterface).2.runOn
          { stack := [1, 1, 2, 0], memory := Bytes.zeros 4 } .read) :=
  ⟨by decide, by decide,
    independent_words_commute twoProbes .read .closeInterface
      { stack := [1, 1, 2, 0], memory := Bytes.zeros 4 } { stack := [2] } 0 1 (by decide)
      (by decide) (by decide)⟩

end Session

end UsbHost
