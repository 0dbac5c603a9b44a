import UsbHost.Proofs.Bench.Queue
import UsbHost.Proofs.Words.Issue

/-!
How words end on a bench, in every state that a run can reach and whatever faults are set. The first
step that is told to fail decides. Everything that a table keeps is open and on a device of the
bench, so a bench finds no fault of its own, unless a pipe is not there or leads the other way.
-/

namespace UsbHost

namespace HandleKind

def lookupSteps : HandleKind → List NativeStep
  | interface => [.createPlugin, .queryInterface, .interfaceOpen]
  | device => [.createPlugin, .queryInterface]

def entryOn : HandleKind → Nat → BenchInterface ⊕ Nat
  | interface, index => .inl ⟨index, true⟩
  | device, index => .inr index

end HandleKind

namespace Bench

def firstFailure? (steps : List NativeStep) (bench : Bench) : Option Failure :=
  steps.findSome? fun step => (bench.fault? step).map (Failure.native step)

/-- What a lookup answers: matching comes first, and finding nothing is an answer before any other
step is tried. -/
def lookup (criteria : Criteria) (steps : List NativeStep) (bench : Bench) :
    Except Failure (Option Nat) :=
  match bench.fault? .serviceMatching with
  | some cause => .error (.native .serviceMatching cause)
  | none =>
    match bench.devices.findIdx? (·.isMatch criteria) with
    | none => .ok none
    | some device =>
      match bench.firstFailure? steps with
      | some failure => .error failure
      | none => .ok (some device)

def closing (bench : Bench) : Except Failure Unit :=
  match bench.fault? .interfaceClose with
  | some cause => .error (.native .interfaceClose cause)
  | none => .ok ()

/-- The failures of a word: one that the bench was told, or that of a pipe which is not there or
leads the other way. -/
inductive Expected (bench : Bench) : Failure → Prop
  | told {step cause} (injected : bench.fault? step = some cause) :
      Expected bench (.native step cause)
  | misaimed {step} (clear : bench.fault? step = none)
      (aims : step ∈ [NativeStep.readPipe, .writePipe, .getPipeProperties]) :
      Expected bench (.native step .invalidParameter)

section

variable {bench : Bench} {criteria : Criteria} {calls : List BenchCall}

theorem Resolution.lookup_error {failure : Failure}
    (resolved : Resolution bench criteria (.error failure) calls) (later : List NativeStep) :
    bench.lookup criteria (.createPlugin :: .queryInterface :: later) = .error failure := by
  cases resolved with
  | unmatched fails => simp only [lookup, fails]
  | uncreated matching found fails => simp [lookup, firstFailure?, matching, found, fails]
  | unqueried matching found creates fails =>
      simp [lookup, firstFailure?, matching, found, creates, fails]

theorem Resolution.lookup_none (resolved : Resolution bench criteria (.ok none) calls)
    (steps : List NativeStep) : bench.lookup criteria steps = .ok none := by
  cases resolved with
  | absent matching unfound => simp only [lookup, matching, unfound]

theorem Resolution.lookup_some {device : Nat}
    (resolved : Resolution bench criteria (.ok (some device)) calls) (later : List NativeStep) :
    bench.lookup criteria (.createPlugin :: .queryInterface :: later) =
      match bench.firstFailure? later with
      | some failure => .error failure
      | none => .ok (some device) := by
  cases resolved with
  | resolved matching found creates queries =>
      simp [lookup, firstFailure?, matching, found, creates, queries]

theorem Resolution.expected {failure : Failure}
    (resolved : Resolution bench criteria (.error failure) calls) : Expected bench failure := by
  cases resolved with
  | unmatched fails | uncreated matching found fails | unqueried matching found creates fails =>
      exact .told fails

theorem Resolution.inRange {device : Nat}
    (resolved : Resolution bench criteria (.ok (some device)) calls) :
    device < bench.devices.length := by
  cases resolved with
  | resolved matching found creates queries =>
      exact (List.findIdx?_eq_some_iff_getElem.mp found).1

theorem InterfaceSearch.lookup_eq {answer : Except Failure (Option BenchInterface)}
    (search : InterfaceSearch bench criteria answer calls) :
    bench.lookup criteria (HandleKind.lookupSteps .interface) =
      answer.map (Option.map BenchInterface.device) := by
  cases search with
  | unresolved resolved => exact resolved.lookup_error _
  | absent resolved => exact resolved.lookup_none _
  | unopened resolved fails =>
      rw [HandleKind.lookupSteps, resolved.lookup_some]
      simp [firstFailure?, fails, Except.map]
  | opened resolved opens =>
      rw [HandleKind.lookupSteps, resolved.lookup_some]
      simp [firstFailure?, opens, Except.map]

end

section

variable {bench host : Bench} {step : NativeStep} {call : BenchCall}

theorem observe_fails {α : Type} {look : Bench → Except NativeFault α} {cause : NativeFault}
    (called : observe call step look bench = (.error cause, host)) :
    bench.fault? step = some cause ∨
      (bench.fault? step = none ∧ look (bench.recordAll [call]) = .error cause) := by
  rw [observe_eq, Prod.mk.injEq] at called
  cases told : bench.fault? step with
  | some fault =>
      simp only [told, Except.error.injEq] at called
      exact Or.inl (congrArg some called.1)
  | none =>
      simp only [told] at called
      exact Or.inr ⟨rfl, called.1⟩

theorem device?_ok {index : Nat} (inRange : index < bench.devices.length) :
    ∃ device, bench.device? index = .ok device := by
  simp only [device?, List.getElem?_eq_getElem inRange]
  exact ⟨_, rfl⟩

theorem pipe?_fails {index : Nat} {pipe : UInt8} {cause : NativeFault}
    (inRange : index < bench.devices.length) (failed : bench.pipe? index pipe = .error cause) :
    cause = .invalidParameter := by
  obtain ⟨device, there⟩ := device?_ok inRange
  simp only [pipe?, there] at failed
  cases described : device.pipes.get? pipe with
  | none =>
      simp only [described, Except.error.injEq] at failed
      exact failed.symm
  | some found => simp [described] at failed

theorem expected_of_atStep {α : Type} {answer : Except NativeFault α} {failure : Failure}
    (failed : Access.atStep step answer = .error failure)
    (expected : ∀ cause, answer = .error cause → Expected bench (.native step cause)) :
    Expected bench failure := by
  cases answer with
  | error cause =>
      cases failed
      exact expected cause rfl
  | ok value => cases failed

theorem expected_of_map {α β : Type} {answer : Except NativeFault α} {change : α → β}
    {failure : Failure} (failed : Access.atStep step (answer.map change) = .error failure)
    (expected : ∀ cause, answer = .error cause → Expected bench (.native step cause)) :
    Expected bench failure := by
  refine expected_of_atStep failed ?_
  intro cause mapped
  cases answer with
  | error earlier =>
      cases mapped
      exact expected cause rfl
  | ok value => cases mapped

theorem answerControl_told {device : Nat} {setup : Setup} {stage data : Bytes}
    {cause : NativeFault} (inRange : device < bench.devices.length)
    (called : answerControl call step device setup stage bench = ((.error cause, data), host)) :
    Expected bench (.native step cause) := by
  unfold answerControl at called
  split at called
  · rename_i fault after observed
    cases called
    rcases observe_fails observed with injected | ⟨clear, failed⟩
    · exact .told injected
    · obtain ⟨found, there⟩ : ∃ found, (bench.recordAll [call]).device? device = .ok found :=
        device?_ok inRange
      rw [there] at failed
      cases failed
  · cases called

theorem control_expected {interface : BenchInterface} {setup : Setup} {buffer data : Bytes}
    {failure : Failure} (inRange : interface.device < bench.devices.length)
    (fits : setup.length.toNat ≤ buffer.length)
    (called : Access.control (σ := Bench) interface setup buffer bench =
      ((.error failure, data), host)) : Expected bench failure := by
  unfold Access.control Access.onDataStage at called
  rw [if_neg (by omega)] at called
  rcases requested : NativeLayer.controlRequest (σ := Bench) interface setup Timeouts.control
    (buffer.take setup.length.toNat) bench with ⟨⟨answer, stage⟩, after⟩
  simp only [requested, Prod.mk.injEq] at called
  refine expected_of_map called.1.1 ?_
  rintro cause rfl
  exact answerControl_told inRange requested

theorem request_expected {device : Nat} {setup : Setup} {buffer data : Bytes} {failure : Failure}
    (inRange : device < bench.devices.length) (fits : setup.length.toNat ≤ buffer.length)
    (called : Access.request (σ := Bench) device setup buffer bench =
      ((.error failure, data), host)) : Expected bench failure := by
  unfold Access.request Access.onDataStage at called
  rw [if_neg (by omega)] at called
  rcases requested : NativeLayer.deviceRequest (σ := Bench) device setup
    (buffer.take setup.length.toNat) bench with ⟨⟨answer, stage⟩, after⟩
  simp only [requested, Prod.mk.injEq] at called
  cases answer with
  | error cause =>
      cases called.1.1
      exact answerControl_told inRange requested
  | ok count => cases called.1.1

theorem pipeProperties_expected {interface : BenchInterface} {pipe : UInt8} {failure : Failure}
    (inRange : interface.device < bench.devices.length)
    (called : Access.pipeProperties (σ := Bench) interface pipe bench = (.error failure, host)) :
    Expected bench failure := by
  unfold Access.pipeProperties at called
  rcases described : NativeLayer.pipeProperties (σ := Bench) interface pipe bench with
    ⟨answer, after⟩
  simp only [described, Prod.mk.injEq] at called
  refine expected_of_atStep called.1 ?_
  rintro cause rfl
  rcases observe_fails described with injected | ⟨clear, failed⟩
  · exact .told injected
  · rw [pipe?_fails inRange failed]
    exact .misaimed clear (by simp)

theorem write_expected {interface : BenchInterface} {pipe : UInt8} {data : Bytes}
    {failure : Failure} (inRange : interface.device < bench.devices.length)
    (called : Access.write (σ := Bench) interface pipe data bench = (.error failure, host)) :
    Expected bench failure := by
  unfold Access.write at called
  rcases written : NativeLayer.writePipe (σ := Bench) interface pipe Timeouts.pipe data bench with
    ⟨answer, after⟩
  simp only [written, Prod.mk.injEq] at called
  refine expected_of_atStep called.1 ?_
  rintro cause rfl
  rcases observe_fails written with injected | ⟨clear, failed⟩
  · exact .told injected
  · have misaimed : cause = .invalidParameter := by
      split at failed
      · rename_i fault unseen
        cases failed
        exact pipe?_fails inRange unseen
      · rename_i found seen
        split at failed
        · cases failed
        · cases failed
          rfl
    rw [misaimed]
    exact .misaimed clear (by simp)

theorem read_expected {interface : BenchInterface} {pipe : UInt8} {buffer data : Bytes}
    {failure : Failure} (inRange : interface.device < bench.devices.length)
    (called : Access.read (σ := Bench) interface pipe buffer bench =
      ((.error failure, data), host)) : Expected bench failure := by
  unfold Access.read at called
  rcases taken : NativeLayer.readPipe (σ := Bench) interface pipe Timeouts.pipe buffer bench with
    ⟨⟨answer, bytes⟩, after⟩
  simp only [taken, Prod.mk.injEq] at called
  refine expected_of_map called.1.1 ?_
  rintro cause rfl
  change readPipe interface pipe Timeouts.pipe buffer bench = _ at taken
  unfold readPipe at taken
  simp only [enter] at taken
  cases told : bench.fault? .readPipe with
  | some fault =>
      simp only [told] at taken
      cases taken
      exact .told told
  | none =>
      simp only [told] at taken
      split at taken
      · rename_i fault unseen
        cases taken
        have missing := pipe?_fails inRange unseen
        rw [missing]
        exact .misaimed told (by simp)
      · split at taken
        · cases taken
        · cases taken
          exact .misaimed told (by simp)

end

end Bench

namespace Session

/-- What is kept is open, and on a device of the bench. -/
structure Sound (session : Session Bench) : Prop where
  isOpen : ∀ handle (interface : BenchInterface), session.interfaces.get? handle = some interface →
    interface.isOpen = true
  interfaces : ∀ handle (interface : BenchInterface),
    session.interfaces.get? handle = some interface →
      interface.device < session.host.devices.length
  devices : ∀ handle (device : Nat), session.devices.get? handle = some device →
    device < session.host.devices.length

theorem Sound.start (host : Bench) (machine : Machine) : Sound (start host machine) := by
  refine ⟨?_, ?_, ?_⟩
  · intro handle interface live
    cases live
  · intro handle interface live
    cases live
  · intro handle device live
    cases live

section

variable {session after : Session Bench}

theorem Sound.of_tables (sound : Sound session) (interfaces : after.interfaces = session.interfaces)
    (devices : after.devices = session.devices)
    (size : after.host.devices.length = session.host.devices.length) : Sound after where
  isOpen := interfaces ▸ sound.isOpen
  interfaces := interfaces ▸ size ▸ sound.interfaces
  devices := devices ▸ size ▸ sound.devices

theorem Sound.addInterface (sound : Sound session) {index : Nat}
    (inRange : index < session.host.devices.length)
    (interfaces : after.interfaces = (session.interfaces.insert (⟨index, true⟩ : BenchInterface)).2)
    (devices : after.devices = session.devices)
    (size : after.host.devices.length = session.host.devices.length) : Sound after := by
  have known : ∀ handle (interface : BenchInterface),
      after.interfaces.get? handle = some interface →
        interface = ⟨index, true⟩ ∨ session.interfaces.get? handle = some interface := by
    intro handle interface live
    rw [interfaces, HandleTable.get?_insert] at live
    split at live
    · cases live
      exact Or.inl rfl
    · exact Or.inr live
  refine ⟨?_, ?_, devices ▸ size ▸ sound.devices⟩
  · intro handle interface live
    rcases known handle interface live with rfl | earlier
    · rfl
    · exact sound.isOpen handle interface earlier
  · intro handle interface live
    rw [size]
    rcases known handle interface live with rfl | earlier
    · exact inRange
    · exact sound.interfaces handle interface earlier

theorem Sound.addDevice (sound : Sound session) {index : Nat}
    (inRange : index < session.host.devices.length)
    (interfaces : after.interfaces = session.interfaces)
    (devices : after.devices = (session.devices.insert (index : Nat)).2)
    (size : after.host.devices.length = session.host.devices.length) : Sound after := by
  refine ⟨interfaces ▸ sound.isOpen, interfaces ▸ size ▸ sound.interfaces, ?_⟩
  intro handle device live
  rw [devices, HandleTable.get?_insert] at live
  rw [size]
  split at live
  · cases live
    exact inRange
  · exact sound.devices handle device live

end

end Session

open Session in
theorem WordEnding.sound {session after : Session Bench} {word : Word}
    {result : Except WordFault Unit} (ending : WordEnding session word result after)
    (sound : Sound session) : Sound after := by
  have size := ending.readsInOrder.devices
  cases ending with
  | refused | unknown | outside | interfaceFailed | interfaceAbsent | interfaceKept
  | controlled | described | readFrom | writtenTo | deviceFailed | deviceAbsent | requested =>
      exact sound.of_tables rfl rfl size
  | interfaceFound taken called =>
      obtain ⟨calls, search, -⟩ := Bench.findInterface_search called
      cases search with
      | opened resolved opens => exact sound.addInterface resolved.inRange rfl rfl size
  | deviceFound taken called =>
      obtain ⟨calls, resolved, -⟩ := Bench.findDevice_resolution called
      exact sound.addDevice resolved.inRange rfl rfl size
  | interfaceClosed taken live called =>
      refine ⟨?_, ?_, ?_⟩
      · intro other interface still
        exact sound.isOpen other interface (HandleTable.get?_of_erase still)
      · intro other interface still
        exact size ▸ sound.interfaces other interface (HandleTable.get?_of_erase still)
      · intro other device still
        exact size ▸ sound.devices other device still
  | deviceClosed taken live =>
      refine ⟨sound.isOpen, size ▸ sound.interfaces, ?_⟩
      intro other device still
      exact size ▸ sound.devices other device (HandleTable.get?_of_erase still)

namespace Session

theorem Sound.apply {session : Session Bench} (event : Event Bench) (sound : Sound session) :
    Sound (session.apply event) := by
  cases event with
  | word word => exact (run_ended word session).sound sound
  | machine machine => exact sound.of_tables rfl rfl rfl
  | change change =>
      exact sound.of_tables rfl rfl (devices_length_change change session.host)

theorem Sound.advance {session : Session Bench} (events : List (Event Bench))
    (sound : Sound session) : Sound (session.advance events) :=
  advance_keeps Sound (fun event _ kept => kept.apply event) events session sound

structure Finds (kind : HandleKind) (step : Step Bench) (stack : List Cell)
    (answer : Except Failure (Option Nat)) : Prop where
  result : step.result = ended answer
  stack : step.after.machine.stack =
    pushed (lookupCells (step.before.next kind)) answer ++ stack
  added : ∀ device, answer = .ok (some device) → ∀ handle,
    step.after.object? kind handle =
      if handle = step.before.next kind then some (kind.entryOn device)
      else step.before.object? kind handle
  unchanged : (∀ device, answer ≠ .ok (some device)) → ∀ handle,
    step.after.object? kind handle = step.before.object? kind handle
  others : ∀ other, other ≠ kind → ∀ handle,
    step.after.object? other handle = step.before.object? other handle

structure Shuts (step : Step Bench) (handle : Cell) (stack : List Cell)
    (answer : Except Failure Unit) : Prop where
  result : step.result = ended answer
  stack : step.after.machine.stack = stack
  interfaces : step.after.interfaces =
    match answer with
    | .error _ => step.before.interfaces
    | .ok () => step.before.interfaces.erase handle
  devices : step.after.devices = step.before.devices

section

variable {session after : Session Bench} {result : Except WordFault Unit}

theorem findInterface_finds (ending : WordEnding session .findInterface result after)
    {operands : FindOperands} {stack : List Cell}
    (taken : FindOperands.take session.machine.stack = .ok operands stack) :
    Finds .interface ⟨.findInterface, session, result, after⟩ stack
      (session.host.lookup (HandleKind.criteria operands.vendorId operands.productId .interface)
        (HandleKind.lookupSteps .interface)) := by
  cases ending with
  | refused faulty =>
      simp only [Word.takeHandle, Functor.map, EStateM.map, taken] at faulty
      cases faulty
  | unknown takes uses | outside takes uses => cases uses
  | interfaceFailed takes called | interfaceAbsent takes called =>
      cases taken.symm.trans takes
      obtain ⟨calls, search, -⟩ := Bench.findInterface_search called
      rw [HandleKind.criteria, search.lookup_eq]
      exact ⟨rfl, rfl, by simp [Except.map], fun _ _ => rfl, fun _ _ _ => rfl⟩
  | interfaceFound takes called =>
      cases taken.symm.trans takes
      obtain ⟨calls, search, -⟩ := Bench.findInterface_search called
      rw [HandleKind.criteria, search.lookup_eq]
      cases search with
      | opened resolved opens =>
          rename_i device calls
          refine ⟨rfl, rfl, ?_, ?_, ?_⟩
          · intro other same handle
            cases same
            by_cases newest : handle = session.interfaces.next
            · simp [object?, next, newest, HandleKind.entryOn]
            · simp [object?, next, newest]
          · intro absent
            exact absurd rfl (absent device)
          · intro other apart handle
            cases other with
            | interface => exact absurd rfl apart
            | device => rfl

theorem findDevice_finds (ending : WordEnding session .findDevice result after)
    {operands : FindOperands} {stack : List Cell}
    (taken : FindOperands.take session.machine.stack = .ok operands stack) :
    Finds .device ⟨.findDevice, session, result, after⟩ stack
      (session.host.lookup (HandleKind.criteria operands.vendorId operands.productId .device)
        (HandleKind.lookupSteps .device)) := by
  cases ending with
  | refused faulty =>
      simp only [Word.takeHandle, Functor.map, EStateM.map, taken] at faulty
      cases faulty
  | unknown takes uses | outside takes uses => cases uses
  | deviceFailed takes called =>
      cases taken.symm.trans takes
      obtain ⟨calls, resolved, -⟩ := Bench.findDevice_resolution called
      rw [HandleKind.criteria, HandleKind.lookupSteps, resolved.lookup_error]
      exact ⟨rfl, rfl, by simp, fun _ _ => rfl, fun _ _ _ => rfl⟩
  | deviceAbsent takes called =>
      cases taken.symm.trans takes
      obtain ⟨calls, resolved, -⟩ := Bench.findDevice_resolution called
      rw [HandleKind.criteria, HandleKind.lookupSteps, resolved.lookup_none]
      exact ⟨rfl, rfl, by simp, fun _ _ => rfl, fun _ _ _ => rfl⟩
  | deviceFound takes called =>
      cases taken.symm.trans takes
      obtain ⟨calls, resolved, -⟩ := Bench.findDevice_resolution called
      rename_i device host
      have answer : session.host.lookup
          (HandleKind.criteria operands.vendorId operands.productId .device)
          (HandleKind.lookupSteps .device) = .ok (some device) := resolved.lookup_some []
      rw [answer]
      refine ⟨rfl, rfl, ?_, ?_, ?_⟩
      · intro other same handle
        cases same
        by_cases newest : handle = session.devices.next
        · simp [object?, next, newest, HandleKind.entryOn]
        · simp [object?, next, newest]
      · intro absent
        exact absurd rfl (absent device)
      · intro other apart handle
        cases other with
        | interface => rfl
        | device => exact absurd rfl apart

theorem closeInterface_shuts (ending : WordEnding session .closeInterface result after)
    (sound : Sound session) {handle : Cell} {stack : List Cell}
    (top : session.machine.stack = handle :: stack)
    (live : (session.interfaces.get? handle).isSome) :
    Shuts ⟨.closeInterface, session, result, after⟩ handle stack session.host.closing := by
  cases ending with
  | refused faulty =>
      rw [top] at faulty
      cases faulty
  | unknown taken uses unheld =>
      rw [top] at taken
      cases taken
      cases uses
      rw [object?, Option.map_eq_none_iff] at unheld
      rw [unheld] at live
      cases live
  | outside taken uses known asked =>
      rw [top] at asked
      cases asked
  | interfaceKept taken known called =>
      cases top.symm.trans taken
      obtain ⟨calls, closing, -⟩ := Bench.closeInterface_close called
      cases closing with
      | failed fails =>
          rw [Bench.closing, fails]
          exact ⟨rfl, rfl, rfl, rfl⟩
      | notOpen closes shut =>
          rw [sound.isOpen _ _ known] at shut
          cases shut
  | interfaceClosed taken known called =>
      cases top.symm.trans taken
      obtain ⟨calls, closing, -⟩ := Bench.closeInterface_close called
      cases closing with
      | closed closes isOpen =>
          rw [Bench.closing, closes]
          exact ⟨rfl, rfl, rfl, rfl⟩

theorem failure_expected {word : Word} {failure : Failure}
    (ending : WordEnding session word (.error (.usb failure)) after) (sound : Sound session) :
    Bench.Expected session.host failure := by
  generalize failed : (.error (.usb failure) : Except WordFault Unit) = result at ending
  cases ending with
  | refused faulty =>
      cases failed
      rcases Word.takeHandle_isPlain _ _ _ _ faulty with plain | ⟨argument, value, plain⟩
      · cases plain
      · cases plain
  | unknown | outside | interfaceAbsent | interfaceFound | interfaceClosed | deviceAbsent
  | deviceFound | deviceClosed => cases failed
  | interfaceFailed taken called =>
      cases failed
      obtain ⟨calls, search, -⟩ := Bench.findInterface_search called
      cases search with
      | unresolved resolved => exact resolved.expected
      | unopened resolved fails => exact .told fails
  | interfaceKept taken live called =>
      cases failed
      obtain ⟨calls, closing, -⟩ := Bench.closeInterface_close called
      cases closing with
      | failed fails => exact .told fails
      | notOpen closes shut =>
          rw [sound.isOpen _ _ live] at shut
          cases shut
  | deviceFailed taken called =>
      cases failed
      obtain ⟨calls, resolved, -⟩ := Bench.findDevice_resolution called
      exact resolved.expected
  | controlled taken live granted called =>
      cases eq_of_ended failed
      have size := Machine.length_of_window? granted
      exact Bench.control_expected (sound.interfaces _ _ live) (by omega) called
  | requested taken live granted called =>
      cases eq_of_ended failed
      have size := Machine.length_of_window? granted
      exact Bench.request_expected (sound.devices _ _ live) (by omega) called
  | described taken live called =>
      cases eq_of_ended failed
      exact Bench.pipeProperties_expected (sound.interfaces _ _ live) called
  | readFrom taken live granted called =>
      cases eq_of_ended failed
      exact Bench.read_expected (sound.interfaces _ _ live) called
  | writtenTo taken live granted called =>
      cases eq_of_ended failed
      exact Bench.write_expected (sound.interfaces _ _ live) called

end

/-- Words end as the bench was told. A lookup fails at the first step that is told to fail, and a
close exactly when closing is; after any number of closes that failed, one that is not told to fail
succeeds. No failure comes from a check that an entry is open or on a device. -/
structure EndsAsTold (session : Session Bench) : Prop where
  lookup : ∀ kind operands stack,
    FindOperands.take session.machine.stack = .ok operands stack →
    Finds kind (session.step kind.finding) stack
      (session.host.lookup (kind.criteria operands.vendorId operands.productId) kind.lookupSteps)
  close : ∀ handle stack, session.machine.stack = handle :: stack →
    (session.interfaces.get? handle).isSome →
    Shuts (session.step .closeInterface) handle stack session.host.closing
  retried : ∀ handle later, (session.interfaces.get? handle).isSome →
    (∀ step ∈ session.history later, step.closed? .interface ≠ some handle) →
    ∀ stack, (session.advance later).machine.stack = handle :: stack →
    (session.advance later).host.fault? .interfaceClose = none →
    ((session.advance later).run .closeInterface).1 = .ok ()
  sound : Sound session
  told : ∀ word failure, (session.run word).1 = .error (.usb failure) →
    Bench.Expected session.host failure

theorem Sound.endsAsTold {session : Session Bench} (sound : Sound session) :
    EndsAsTold session where
  lookup kind operands stack taken := by
    cases kind with
    | interface => exact findInterface_finds (run_ended .findInterface session) taken
    | device => exact findDevice_finds (run_ended .findDevice session) taken
  close handle stack top live :=
    closeInterface_shuts (run_ended .closeInterface session) sound top live
  retried handle later live unclosed stack top clear := by
    have now : (session.object? .interface handle).isSome := by rwa [object?, Option.isSome_map]
    have still := isSome_object?_advance later session unclosed now
    rw [object?, Option.isSome_map] at still
    have shuts := closeInterface_shuts (run_ended .closeInterface _) (sound.advance later) top still
    rw [Bench.closing, clear] at shuts
    exact shuts.result
  sound := sound
  told word failure failed := by
    have ending := run_ended word session
    rw [failed] at ending
    exact failure_expected ending sound

/-- In every state that a run on a bench can reach, with any faults set on the way, words end as the
bench was told. -/
theorem bench_ends_as_told (host : Bench) (machine : Machine) (events : List (Event Bench)) :
    EndsAsTold ((start host machine).advance events) :=
  ((Sound.start host machine).advance events).endsAsTold

example : [[0x5740, 0x0483], [1, 0x0483]].map (fun stack =>
    ((start (Bench.fail .interfaceOpen .busy (Bench.fail .queryInterface .pipe
      { devices := [.probe] })) { stack }).run .findInterface).1) =
    [.error (.usb (.native .queryInterface .pipe)), .ok ()] := by decide

end Session

end UsbHost
