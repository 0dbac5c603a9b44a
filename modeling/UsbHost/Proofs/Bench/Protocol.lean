import UsbHost.Proofs.Bench.Effect
import UsbHost.Proofs.Words.Issue
import UsbHost.Proofs.Words.Machine

/-!
The calls that each word makes on a bench, and how they balance over a run: a plugin is released
right after its query, an interface is released when it does not open or after it has closed, and
whatever was opened and not released is kept by an entry of a table.
-/

namespace UsbHost

def BenchCall.step? : BenchCall → Option NativeStep
  | matchService _ | listDevices => some .serviceMatching
  | createPlugin _ _ => some .createPlugin
  | queryInterface _ | queryDevice _ => some .queryInterface
  | openInterface _ => some .interfaceOpen
  | closeInterface _ => some .interfaceClose
  | controlRequest _ _ _ => some .controlRequest
  | deviceRequest _ _ => some .deviceRequest
  | readPipe _ _ _ _ => some .readPipe
  | writePipe _ _ _ _ => some .writePipe
  | pipeProperties _ _ => some .getPipeProperties
  | pipeCount _ => some .getPipeCount
  | releasePlugin _ | releaseInterface _ | releaseDevice _ => none

/-- What has to be called after a call that failed. -/
def BenchCall.cleanup : BenchCall → List BenchCall
  | queryInterface device | queryDevice device => [releasePlugin device]
  | openInterface device => [releaseInterface device]
  | _ => []

def BenchCall.isUse : BenchCall → Bool
  | controlRequest _ _ _ | deviceRequest _ _ | readPipe _ _ _ _ | writePipe _ _ _ _
  | pipeProperties _ _ => true
  | _ => false

def Word.isUse : Word → Bool
  | control | pipeProperties | read | write | request => true
  | _ => false

def HandleKind.serviceClass : HandleKind → ServiceClass
  | interface => .interface
  | device => .device

namespace Session

variable (session : Session Bench)

/-- How a word ends, the calls that it makes in order, and the tables that it leaves. -/
inductive Protocol : Word → Except WordFault Unit → List BenchCall → HandleTable BenchInterface →
    HandleTable Nat → Prop
  | refused {word fault} (plain : fault.isUsb = false) :
      Protocol word (.error fault) [] session.interfaces session.devices
  | unmatched {kind cause} (criteria : Criteria) (fits : criteria.serviceClass = kind.serviceClass)
      (told : session.host.fault? .serviceMatching = some cause) :
      Protocol (HandleKind.finding kind) (.error (.usb (.native .serviceMatching cause)))
        [.matchService criteria] session.interfaces session.devices
  | absent {kind} (criteria : Criteria) (fits : criteria.serviceClass = kind.serviceClass)
      (clear : session.host.fault? .serviceMatching = none) :
      Protocol (HandleKind.finding kind) (.ok ()) [.matchService criteria] session.interfaces
        session.devices
  | uncreated {kind cause} (criteria : Criteria) (device : Nat)
      (fits : criteria.serviceClass = kind.serviceClass)
      (clear : session.host.fault? .serviceMatching = none)
      (told : session.host.fault? .createPlugin = some cause) :
      Protocol (HandleKind.finding kind) (.error (.usb (.native .createPlugin cause)))
        [.matchService criteria, .createPlugin device kind.serviceClass] session.interfaces
        session.devices
  | unqueried {kind cause} (criteria : Criteria) (device : Nat)
      (fits : criteria.serviceClass = kind.serviceClass)
      (clear : ∀ step ∈ [.serviceMatching, .createPlugin], session.host.fault? step = none)
      (told : session.host.fault? .queryInterface = some cause) :
      Protocol (HandleKind.finding kind) (.error (.usb (.native .queryInterface cause)))
        [.matchService criteria, .createPlugin device kind.serviceClass,
          .query kind.serviceClass device, .releasePlugin device] session.interfaces session.devices
  | unopened {cause} (criteria : Criteria) (device : Nat)
      (fits : criteria.serviceClass = .interface)
      (clear : ∀ step ∈ [.serviceMatching, .createPlugin, .queryInterface],
        session.host.fault? step = none)
      (told : session.host.fault? .interfaceOpen = some cause) :
      Protocol .findInterface (.error (.usb (.native .interfaceOpen cause)))
        [.matchService criteria, .createPlugin device .interface, .queryInterface device,
          .releasePlugin device, .openInterface device, .releaseInterface device]
        session.interfaces session.devices
  | opened (criteria : Criteria) (device : Nat) (fits : criteria.serviceClass = .interface)
      (clear : ∀ step ∈ [.serviceMatching, .createPlugin, .queryInterface, .interfaceOpen],
        session.host.fault? step = none) :
      Protocol .findInterface (.ok ())
        [.matchService criteria, .createPlugin device .interface, .queryInterface device,
          .releasePlugin device, .openInterface device]
        (session.interfaces.insert (⟨device, true⟩ : BenchInterface)).2 session.devices
  | found (criteria : Criteria) (device : Nat) (fits : criteria.serviceClass = .device)
      (clear : ∀ step ∈ [.serviceMatching, .createPlugin, .queryInterface],
        session.host.fault? step = none) :
      Protocol .findDevice (.ok ())
        [.matchService criteria, .createPlugin device .device, .queryDevice device,
          .releasePlugin device] session.interfaces (session.devices.insert (device : Nat)).2
  | unclosed {handle cause} {interface : BenchInterface}
      (live : session.interfaces.get? handle = some interface)
      (told : ∀ fault, session.host.fault? .interfaceClose = some fault → cause = fault) :
      Protocol .closeInterface (.error (.usb (.native .interfaceClose cause)))
        [.closeInterface interface.device] session.interfaces session.devices
  | closed {handle} {interface : BenchInterface}
      (live : session.interfaces.get? handle = some interface)
      (clear : session.host.fault? .interfaceClose = none) :
      Protocol .closeInterface (.ok ())
        [.closeInterface interface.device, .releaseInterface interface.device]
        (session.interfaces.erase handle) session.devices
  | deviceClosed {handle} {device : Nat} (live : session.devices.get? handle = some device) :
      Protocol .closeDevice (.ok ()) [.releaseDevice device] session.interfaces
        (session.devices.erase handle)
  | used {word call step} (uses : Word.isUse word) (plain : BenchCall.isUse call)
      (names : call.step? = some step) (clear : session.host.fault? step = none) :
      Protocol word (.ok ()) [call] session.interfaces session.devices
  | unused {word call step cause} (uses : Word.isUse word) (plain : BenchCall.isUse call)
      (names : call.step? = some step)
      (told : ∀ fault, session.host.fault? step = some fault → cause = fault) :
      Protocol word (.error (.usb (.native step cause))) [call] session.interfaces session.devices

end Session

open Session

namespace Bench

section

variable {session : Session Bench} {criteria : Criteria} {calls : List BenchCall}

theorem Resolution.protocol_error (kind : HandleKind) {failure : Failure}
    (resolved : Resolution session.host criteria (.error failure) calls)
    (fits : criteria.serviceClass = kind.serviceClass) :
    session.Protocol kind.finding (.error (.usb failure)) calls session.interfaces
      session.devices := by
  cases resolved with
  | unmatched fails => exact .unmatched criteria fits fails
  | uncreated matching found fails =>
      rw [fits]
      exact .uncreated criteria _ fits matching fails
  | unqueried matching found creates fails =>
      rw [fits]
      exact .unqueried criteria _ fits (by simp [matching, creates]) fails

theorem Resolution.protocol_none (kind : HandleKind)
    (resolved : Resolution session.host criteria (.ok none) calls)
    (fits : criteria.serviceClass = kind.serviceClass) :
    session.Protocol kind.finding (.ok ()) calls session.interfaces session.devices := by
  cases resolved with
  | absent matching unfound => exact .absent criteria fits matching

theorem Resolution.calls_some {bench : Bench} {device : Nat}
    (resolved : Resolution bench criteria (.ok (some device)) calls) :
    calls = [.matchService criteria, .createPlugin device criteria.serviceClass,
        .query criteria.serviceClass device, .releasePlugin device] ∧
      ∀ step ∈ [.serviceMatching, .createPlugin, .queryInterface], bench.fault? step = none := by
  cases resolved with
  | resolved matching found creates queries => exact ⟨rfl, by simp [matching, creates, queries]⟩

end

theorem Use.protocol {α : Type} {session : Session Bench} {host : Bench} {word : Word}
    {step : NativeStep} {call : BenchCall} {buffer data : Bytes} {answer : Except Failure α}
    (use : Use session.host step call buffer answer data host) (uses : word.isUse)
    (plain : call.isUse) (names : call.step? = some step) :
    host.calls = session.host.calls ++ [call] ∧
      session.Protocol word (ended answer) [call] session.interfaces session.devices := by
  cases use with
  | failed injected => exact ⟨rfl, .unused uses plain names injected⟩
  | done clear pipes => exact ⟨rfl, .used uses plain names clear⟩

end Bench

theorem WordEnding.protocol {session after : Session Bench} {word : Word}
    {result : Except WordFault Unit} (ending : WordEnding session word result after) :
    ∃ calls, after.host.calls = session.host.calls ++ calls ∧
      session.Protocol word result calls after.interfaces after.devices := by
  cases ending with
  | refused faulty =>
      refine ⟨[], (List.append_nil _).symm, .refused ?_⟩
      rcases Word.takeHandle_isPlain _ _ _ _ faulty with rfl | ⟨argument, value, rfl⟩
      · rfl
      · rfl
  | unknown taken uses unheld => exact ⟨[], (List.append_nil _).symm, .refused rfl⟩
  | outside taken uses live asked ungranted => exact ⟨[], (List.append_nil _).symm, .refused rfl⟩
  | interfaceFailed taken called =>
      obtain ⟨calls, search, rfl⟩ := Bench.findInterface_search called
      refine ⟨_, rfl, ?_⟩
      cases search with
      | unresolved resolved => exact resolved.protocol_error .interface rfl
      | unopened resolved fails =>
          obtain ⟨rfl, clear⟩ := resolved.calls_some
          exact .unopened _ _ rfl clear fails
  | interfaceAbsent taken called =>
      obtain ⟨calls, search, rfl⟩ := Bench.findInterface_search called
      refine ⟨_, rfl, ?_⟩
      cases search with
      | absent resolved => exact resolved.protocol_none .interface rfl
  | interfaceFound taken called =>
      obtain ⟨calls, search, rfl⟩ := Bench.findInterface_search called
      rw [Bench.dropDisplaced_idle _ _ fun _ => rfl]
      refine ⟨_, rfl, ?_⟩
      cases search with
      | opened resolved opens =>
          obtain ⟨rfl, clear⟩ := resolved.calls_some
          refine .opened _ _ rfl ?_
          simp only [List.mem_cons, forall_eq_or_imp] at clear ⊢
          exact ⟨clear.1, clear.2.1, clear.2.2.1, opens, by simp⟩
  | deviceFailed taken called =>
      obtain ⟨calls, resolved, rfl⟩ := Bench.findDevice_resolution called
      exact ⟨_, rfl, resolved.protocol_error .device rfl⟩
  | deviceAbsent taken called =>
      obtain ⟨calls, resolved, rfl⟩ := Bench.findDevice_resolution called
      exact ⟨_, rfl, resolved.protocol_none .device rfl⟩
  | deviceFound taken called =>
      obtain ⟨calls, resolved, rfl⟩ := Bench.findDevice_resolution called
      obtain ⟨rfl, clear⟩ := resolved.calls_some
      rw [Bench.dropDisplaced_idle _ _ fun _ => rfl]
      exact ⟨_, rfl, .found _ _ rfl clear⟩
  | interfaceKept taken live called =>
      obtain ⟨calls, closing, rfl⟩ := Bench.closeInterface_close called
      cases closing with
      | failed fails =>
          exact ⟨_, rfl, .unclosed live fun other same => Option.some.inj (fails.symm.trans same)⟩
      | notOpen closes shut => exact ⟨_, rfl, .unclosed live (by simp [closes])⟩
  | interfaceClosed taken live called =>
      obtain ⟨calls, closing, rfl⟩ := Bench.closeInterface_close called
      cases closing with
      | closed closes isOpen => exact ⟨_, rfl, .closed live closes⟩
  | deviceClosed taken live => exact ⟨_, rfl, .deviceClosed live⟩
  | controlled taken live granted called =>
      have size := Machine.length_of_window? granted
      exact ⟨_, (Bench.control_use (by omega) called).protocol rfl rfl rfl⟩
  | requested taken live granted called =>
      have size := Machine.length_of_window? granted
      exact ⟨_, (Bench.request_use (by omega) called).protocol rfl rfl rfl⟩
  | readFrom taken live granted called =>
      exact ⟨_, (Bench.read_use called).protocol rfl rfl rfl⟩
  | writtenTo taken live granted called =>
      exact ⟨_, (Bench.write_use called).protocol rfl rfl rfl⟩
  | described taken live called =>
      exact ⟨_, (Bench.pipeProperties_use called).protocol rfl rfl rfl⟩

def failedStep? : Except WordFault Unit → Option NativeStep
  | .error (.usb failure) => failure.step?
  | _ => none

def BenchCall.fails (result : Except WordFault Unit) (call : BenchCall) : Bool :=
  call.step?.isSome && call.step? == failedStep? result

theorem fails_ok (call : BenchCall) : call.fails (.ok ()) = false := by
  cases named : call.step? with
  | none => simp [BenchCall.fails, named]
  | some step => simp [BenchCall.fails, named, failedStep?]

def CleansUp (result : Except WordFault Unit) : List BenchCall → Prop
  | [] => True
  | call :: later => (call.fails result → later = call.cleanup) ∧ CleansUp result later

theorem CleansUp.of_suffix {result : Except WordFault Unit} {calls later : List BenchCall}
    {call : BenchCall} (cleans : CleansUp result calls) (suffix : call :: later <:+ calls)
    (failed : call.fails result) : later = call.cleanup := by
  induction calls with
  | nil => cases List.suffix_nil.mp suffix
  | cons first rest ih =>
      rcases List.suffix_cons_iff.mp suffix with whole | inside
      · cases whole
        exact cleans.1 failed
      · exact ih cleans.2 inside

namespace Session.Protocol

variable {session : Session Bench} {word : Word} {result : Except WordFault Unit}
  {calls : List BenchCall} {interfaces : HandleTable BenchInterface} {devices : HandleTable Nat}

theorem nodup (protocol : session.Protocol word result calls interfaces devices) :
    calls.Nodup := by
  cases protocol with
  | refused plain => exact List.nodup_nil
  | unqueried criteria device fits clear told =>
      rename_i kind cause
      cases kind <;> simp [BenchCall.query, HandleKind.serviceClass]
  | _ => simp

theorem cleansUp (protocol : session.Protocol word result calls interfaces devices) :
    CleansUp result calls := by
  cases protocol with
  | unqueried criteria device fits clear told =>
      rename_i kind cause
      cases kind <;>
        simp [CleansUp, BenchCall.fails, BenchCall.step?, BenchCall.cleanup, BenchCall.query,
          HandleKind.serviceClass, failedStep?, Failure.step?]
  | used uses plain names clear => simp [CleansUp, fails_ok]
  | unused uses plain names told =>
      rename_i call step cause
      cases call <;> simp [BenchCall.isUse] at plain <;> simp [CleansUp, BenchCall.cleanup]
  | _ =>
      simp [CleansUp, BenchCall.fails, BenchCall.step?, BenchCall.cleanup, failedStep?,
        Failure.step?]

theorem reported (protocol : session.Protocol word result calls interfaces devices)
    {call : BenchCall} (made : call ∈ calls) {step : NativeStep} {cause : NativeFault}
    (names : call.step? = some step) (told : session.host.fault? step = some cause) :
    result = .error (.usb (.native step cause)) := by
  cases protocol with
  | refused plain => cases made
  | used uses plain named clear =>
      rw [List.mem_singleton.mp made, named, Option.some.injEq] at names
      rw [names, told] at clear
      cases clear
  | unused uses plain named injected =>
      rw [List.mem_singleton.mp made, named, Option.some.injEq] at names
      rw [injected cause (names ▸ told), names]
  | unqueried criteria device fits clear told =>
      rename_i kind cause
      cases kind <;> grind [BenchCall.step?, BenchCall.query, HandleKind.serviceClass]
  | _ => grind [BenchCall.step?]

end Session.Protocol

def Step.benchCalls (step : Step Bench) : List BenchCall :=
  step.after.host.calls.drop step.before.host.calls.length

structure FollowsProtocol (step : Step Bench) : Prop where
  logged : step.before.host.calls <+: step.after.host.calls
  protocol : step.before.Protocol step.word step.result step.benchCalls step.after.interfaces
    step.after.devices
  once : step.benchCalls.Nodup
  cleanup : ∀ call later, call :: later <:+ step.benchCalls → call.fails step.result →
    later = call.cleanup
  reported : ∀ call ∈ step.benchCalls, ∀ stage cause, call.step? = some stage →
    step.before.host.fault? stage = some cause →
      step.result = .error (.usb (.native stage cause))

theorem Session.step_followsProtocol (word : Word) (session : Session Bench) :
    FollowsProtocol (session.step word) := by
  obtain ⟨calls, logged, protocol⟩ := (run_ended word session).protocol
  have made : (session.step word).benchCalls = calls := by
    change (session.run word).2.host.calls.drop session.host.calls.length = calls
    rw [logged, List.drop_left]
  rw [← made] at protocol
  exact {
    logged := ⟨calls, logged.symm⟩
    protocol := protocol
    once := protocol.nodup
    cleanup := fun call later suffix failed => protocol.cleansUp.of_suffix suffix failed
    reported := fun call member stage cause names told => protocol.reported member names told }

end UsbHost
