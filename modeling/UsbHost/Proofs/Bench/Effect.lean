import UsbHost.Bench.Layer
import UsbHost.Proofs.Words.Ending

/-!
What each operation does to a bench: the calls that it records, in order, and how it answers. A
lookup and a close change nothing but the log. A request or a transfer makes at most one call, and
one that fails leaves devices and data alone.
-/

namespace UsbHost

inductive BenchChange where
  | fail (step : NativeStep) (fault : NativeFault)
  | clearFaults
  | clearCalls
  | queue (device : Nat) (data : Bytes)
deriving DecidableEq

namespace BenchCall

def query : ServiceClass → Nat → BenchCall
  | .interface, device => .queryInterface device
  | .device, device => .queryDevice device

end BenchCall

namespace Bench

instance : ChangingHost Bench where
  Change := BenchChange
  change
    | .fail step fault => fail step fault
    | .clearFaults => clearFaults
    | .clearCalls => clearCalls
    | .queue device data => queue device data

def recordAll (calls : List BenchCall) (bench : Bench) : Bench :=
  { bench with calls := bench.calls ++ calls }

theorem record_eq (call : BenchCall) (bench : Bench) : bench.record call = bench.recordAll [call] :=
  rfl

@[simp] theorem recordAll_recordAll (first second : List BenchCall) (bench : Bench) :
    (bench.recordAll first).recordAll second = bench.recordAll (first ++ second) := by
  simp [recordAll]

@[simp] theorem fault?_recordAll (calls : List BenchCall) (step : NativeStep) (bench : Bench) :
    (bench.recordAll calls).fault? step = bench.fault? step := rfl

@[simp] theorem devices_recordAll (calls : List BenchCall) (bench : Bench) :
    (bench.recordAll calls).devices = bench.devices := rfl

theorem pipes_modify (devices : List BenchDevice) (index : Nat) (change : BenchDevice → BenchDevice)
    (keeps : ∀ device, (change device).pipes = device.pipes) :
    (devices.modify index change).map BenchDevice.pipes = devices.map BenchDevice.pipes :=
  map_modify_of_keeps BenchDevice.pipes devices index change fun device _ => keeps device

theorem observe_eq {α : Type} (call : BenchCall) (step : NativeStep)
    (answer : Bench → Except NativeFault α) (bench : Bench) :
    observe call step answer bench =
      (match bench.fault? step with
        | some fault => .error fault
        | none => answer (bench.recordAll [call]), bench.recordAll [call]) := by
  simp only [observe, enter, record_eq]
  cases bench.fault? step with
  | none => rfl
  | some fault => rfl

theorem dropDisplaced_idle {α : Type} {drop : α → Bench → Bench} (table : HandleTable α)
    (bench : Bench) (idle : ∀ displaced, drop displaced bench = bench) :
    Session.dropDisplaced drop table bench = bench := by
  unfold Session.dropDisplaced
  cases table.get? table.next with
  | none => rfl
  | some displaced => exact idle displaced

/-- How a service is resolved, with the calls that it takes: it ends with the first step that is
told to fail, and the plugin is released whatever the query answered. -/
inductive Resolution (bench : Bench) (criteria : Criteria) :
    Except Failure (Option Nat) → List BenchCall → Prop
  | unmatched {cause} (fails : bench.fault? .serviceMatching = some cause) :
      Resolution bench criteria (.error (.native .serviceMatching cause))
        [.matchService criteria]
  | absent (matching : bench.fault? .serviceMatching = none)
      (absent : bench.devices.findIdx? (·.isMatch criteria) = none) :
      Resolution bench criteria (.ok none) [.matchService criteria]
  | uncreated {device cause} (matching : bench.fault? .serviceMatching = none)
      (found : bench.devices.findIdx? (·.isMatch criteria) = some device)
      (fails : bench.fault? .createPlugin = some cause) :
      Resolution bench criteria (.error (.native .createPlugin cause))
        [.matchService criteria, .createPlugin device criteria.serviceClass]
  | unqueried {device cause} (matching : bench.fault? .serviceMatching = none)
      (found : bench.devices.findIdx? (·.isMatch criteria) = some device)
      (creates : bench.fault? .createPlugin = none)
      (fails : bench.fault? .queryInterface = some cause) :
      Resolution bench criteria (.error (.native .queryInterface cause))
        [.matchService criteria, .createPlugin device criteria.serviceClass,
          .query criteria.serviceClass device, .releasePlugin device]
  | resolved {device} (matching : bench.fault? .serviceMatching = none)
      (found : bench.devices.findIdx? (·.isMatch criteria) = some device)
      (creates : bench.fault? .createPlugin = none)
      (queries : bench.fault? .queryInterface = none) :
      Resolution bench criteria (.ok (some device))
        [.matchService criteria, .createPlugin device criteria.serviceClass,
          .query criteria.serviceClass device, .releasePlugin device]

def Asks {α : Type} (serviceClass : ServiceClass) (object : Nat → α)
    (query : BenchPlugin → Bench → (Except NativeFault α × BenchPlugin) × Bench) : Prop :=
  ∀ device bench, query ⟨device, serviceClass⟩ bench =
    ((match bench.fault? .queryInterface with
      | some fault => .error fault
      | none => .ok (object device), ⟨device, serviceClass⟩),
      bench.recordAll [.query serviceClass device])

theorem queryInterface_asks :
    Asks .interface (fun device => ⟨device, false⟩) (NativeLayer.queryInterface (σ := Bench)) := by
  intro device bench
  simp only [NativeLayer.queryInterface, queryInterface, observe_eq]
  rfl

theorem queryDevice_asks : Asks .device id (NativeLayer.queryDevice (σ := Bench)) := by
  intro device bench
  simp only [NativeLayer.queryDevice, queryDevice, observe_eq]
  rfl

theorem matchService_eq (criteria : Criteria) (bench : Bench) :
    NativeLayer.matchService criteria bench =
      (match bench.fault? .serviceMatching with
        | some fault => .error fault
        | none => .ok (bench.devices.findIdx? (·.isMatch criteria)),
        bench.recordAll [.matchService criteria]) :=
  observe_eq _ _ _ bench

theorem createPlugin_eq (device : Nat) (serviceClass : ServiceClass) (bench : Bench) :
    NativeLayer.createPlugin (σ := Bench) device serviceClass bench =
      (match bench.fault? .createPlugin with
        | some fault => .error fault
        | none => .ok ⟨device, serviceClass⟩,
        bench.recordAll [.createPlugin device serviceClass]) :=
  observe_eq _ _ _ bench

theorem resolve_resolution {α : Type} (criteria : Criteria) {object : Nat → α}
    {query : BenchPlugin → Bench → (Except NativeFault α × BenchPlugin) × Bench}
    (asks : Asks criteria.serviceClass object query) (bench : Bench) :
    ∃ answer calls, Resolution bench criteria answer calls ∧
      Access.resolve criteria query bench =
        (answer.map (Option.map object), bench.recordAll calls) := by
  unfold Access.resolve
  rw [matchService_eq]
  cases matching : bench.fault? .serviceMatching with
  | some cause => exact ⟨_, _, .unmatched matching, rfl⟩
  | none =>
      cases found : bench.devices.findIdx? (·.isMatch criteria) with
      | none => exact ⟨_, _, .absent matching found, rfl⟩
      | some device =>
          simp only [createPlugin_eq, fault?_recordAll, recordAll_recordAll]
          cases creates : bench.fault? .createPlugin with
          | some cause => exact ⟨_, _, .uncreated matching found creates, rfl⟩
          | none =>
              simp only [asks device, fault?_recordAll, recordAll_recordAll]
              cases queries : bench.fault? .queryInterface with
              | some cause =>
                  refine ⟨_, _, .unqueried matching found creates queries, ?_⟩
                  simp [NativeLayer.releasePlugin, record_eq, Except.map]
              | none =>
                  refine ⟨_, _, .resolved matching found creates queries, ?_⟩
                  simp [NativeLayer.releasePlugin, record_eq, Except.map]

inductive InterfaceSearch (bench : Bench) (criteria : Criteria) :
    Except Failure (Option BenchInterface) → List BenchCall → Prop
  | unresolved {failure calls} (resolved : Resolution bench criteria (.error failure) calls) :
      InterfaceSearch bench criteria (.error failure) calls
  | absent {calls} (resolved : Resolution bench criteria (.ok none) calls) :
      InterfaceSearch bench criteria (.ok none) calls
  | unopened {device calls cause} (resolved : Resolution bench criteria (.ok (some device)) calls)
      (fails : bench.fault? .interfaceOpen = some cause) :
      InterfaceSearch bench criteria (.error (.native .interfaceOpen cause))
        (calls ++ [.openInterface device, .releaseInterface device])
  | opened {device calls} (resolved : Resolution bench criteria (.ok (some device)) calls)
      (opens : bench.fault? .interfaceOpen = none) :
      InterfaceSearch bench criteria (.ok (some ⟨device, true⟩))
        (calls ++ [.openInterface device])

theorem openInterface_eq (interface : BenchInterface) (bench : Bench) :
    NativeLayer.openInterface interface bench =
      (match bench.fault? .interfaceOpen with
        | some fault => .error fault
        | none => if interface.isOpen then .error .busy else .ok { interface with isOpen := true },
        bench.recordAll [.openInterface interface.device]) :=
  observe_eq _ _ _ bench

theorem findInterface_search {vendorId productId : UInt16} {bench host : Bench}
    {answer : Except Failure (Option BenchInterface)}
    (called : Access.findInterface vendorId productId bench = (answer, host)) :
    ∃ calls, InterfaceSearch bench (.interface vendorId productId) answer calls ∧
      host = bench.recordAll calls := by
  obtain ⟨resolved, calls, resolution, same⟩ :=
    resolve_resolution (.interface vendorId productId) queryInterface_asks bench
  unfold Access.findInterface at called
  rw [same] at called
  cases resolved with
  | error failure =>
      cases called
      exact ⟨calls, .unresolved resolution, rfl⟩
  | ok found =>
      cases found with
      | none =>
          cases called
          exact ⟨calls, .absent resolution, rfl⟩
      | some device =>
          simp only [Except.map, Option.map_some, openInterface_eq, fault?_recordAll,
            recordAll_recordAll] at called
          cases opens : bench.fault? .interfaceOpen with
          | some cause =>
              simp only [opens, NativeLayer.releaseInterface, record_eq, recordAll_recordAll,
                List.append_assoc, Prod.mk.injEq] at called
              obtain ⟨rfl, rfl⟩ := called
              exact ⟨_, .unopened resolution opens, rfl⟩
          | none =>
              simp only [opens, Bool.false_eq_true, if_false, Prod.mk.injEq] at called
              obtain ⟨rfl, rfl⟩ := called
              exact ⟨_, .opened resolution opens, rfl⟩

theorem findDevice_resolution {vendorId productId : UInt16} {bench host : Bench}
    {answer : Except Failure (Option Nat)}
    (called : Access.findDevice vendorId productId bench = (answer, host)) :
    ∃ calls, Resolution bench (.device vendorId productId) answer calls ∧
      host = bench.recordAll calls := by
  obtain ⟨resolved, calls, resolution, same⟩ :=
    resolve_resolution (.device vendorId productId) queryDevice_asks bench
  have unchanged : resolved.map (Option.map id) = resolved := by
    cases resolved with
    | error failure => rfl
    | ok found => simp [Except.map]
  rw [unchanged] at same
  obtain ⟨rfl, rfl⟩ := Prod.mk.inj (same.symm.trans called)
  exact ⟨calls, resolution, rfl⟩

inductive InterfaceClose (bench : Bench) (interface : BenchInterface) :
    Except Failure Unit → List BenchCall → Prop
  | failed {cause} (fails : bench.fault? .interfaceClose = some cause) :
      InterfaceClose bench interface (.error (.native .interfaceClose cause))
        [.closeInterface interface.device]
  | notOpen (closes : bench.fault? .interfaceClose = none) (shut : interface.isOpen = false) :
      InterfaceClose bench interface (.error (.native .interfaceClose .invalidParameter))
        [.closeInterface interface.device]
  | closed (closes : bench.fault? .interfaceClose = none) (isOpen : interface.isOpen = true) :
      InterfaceClose bench interface (.ok ())
        [.closeInterface interface.device, .releaseInterface interface.device]

theorem closeInterface_eq (interface : BenchInterface) (bench : Bench) :
    NativeLayer.closeInterface interface bench =
      (match bench.fault? .interfaceClose with
        | some fault => .error fault
        | none =>
          if interface.isOpen then .ok { interface with isOpen := false }
          else .error .invalidParameter,
        bench.recordAll [.closeInterface interface.device]) :=
  observe_eq _ _ _ bench

theorem closeInterface_close {interface : BenchInterface} {bench host : Bench}
    {answer : Except Failure Unit}
    (called : Access.closeInterface (σ := Bench) interface bench = (answer, host)) :
    ∃ calls, InterfaceClose bench interface answer calls ∧ host = bench.recordAll calls := by
  unfold Access.closeInterface at called
  rw [closeInterface_eq] at called
  cases closes : bench.fault? .interfaceClose with
  | some cause =>
      simp only [closes, Prod.mk.injEq] at called
      obtain ⟨rfl, rfl⟩ := called
      exact ⟨_, .failed closes, rfl⟩
  | none =>
      cases isOpen : interface.isOpen with
      | false =>
          simp only [closes, isOpen, Bool.false_eq_true, if_false, Prod.mk.injEq] at called
          obtain ⟨rfl, rfl⟩ := called
          exact ⟨_, .notOpen closes isOpen, rfl⟩
      | true =>
          simp only [closes, isOpen, if_true, NativeLayer.releaseInterface, record_eq,
            recordAll_recordAll, Prod.mk.injEq] at called
          obtain ⟨rfl, rfl⟩ := called
          exact ⟨_, .closed closes isOpen, rfl⟩

inductive Use {α : Type} (bench : Bench) (step : NativeStep) (call : BenchCall) (buffer : Bytes) :
    Except Failure α → Bytes → Bench → Prop
  | failed {cause} (injected : ∀ fault, bench.fault? step = some fault → cause = fault) :
      Use bench step call buffer (.error (.native step cause)) buffer (bench.recordAll [call])
  | done {value data devices} (clear : bench.fault? step = none)
      (pipes : devices.map BenchDevice.pipes = bench.devices.map BenchDevice.pipes) :
      Use bench step call buffer (.ok value) data { bench.recordAll [call] with devices }

theorem observe_use {α : Type} {step : NativeStep} {call : BenchCall}
    {look : Bench → Except NativeFault α} {bench host : Bench} {answer : Except NativeFault α}
    (buffer : Bytes) (called : observe call step look bench = (answer, host)) :
    Use bench step call buffer (Access.atStep step answer) buffer host := by
  rw [observe_eq] at called
  cases told : bench.fault? step with
  | some fault =>
      simp only [told, Prod.mk.injEq] at called
      obtain ⟨rfl, rfl⟩ := called
      exact .failed fun other same => Option.some.inj (told.symm.trans same)
  | none =>
      simp only [told, Prod.mk.injEq] at called
      obtain ⟨seen, rfl⟩ := called
      cases answer with
      | error fault => exact .failed (by simp [told])
      | ok value => exact .done told rfl

theorem answerControl_use {call : BenchCall} {step : NativeStep} {device : Nat} {setup : Setup}
    {stage data : Bytes} {bench host : Bench} {answer : Except NativeFault Nat} (rest : Bytes)
    (called : answerControl call step device setup stage bench = ((answer, data), host)) :
    Use bench step call (stage ++ rest) (Access.atStep step answer) (data ++ rest) host := by
  unfold answerControl at called
  rcases observed : observe call step (fun bench => (bench.device? device).map fun found =>
    found.answerControl setup stage) bench with ⟨seen, after⟩
  have use := observe_use (stage ++ rest) observed
  rw [observed] at called
  cases seen with
  | error fault =>
      cases called
      cases use with
      | failed injected => exact .failed injected
  | ok reply =>
      cases called
      cases use with
      | done clear pipes => exact .done clear pipes

theorem mapCount_use {step : NativeStep} {call : BenchCall} {buffer data : Bytes}
    {bench host : Bench} {β : Type} {answer : Except NativeFault Nat} (change : Nat → β)
    (use : Use bench step call buffer (Access.atStep step answer) data host) :
    Use bench step call buffer (Access.atStep step (answer.map change)) data host := by
  cases answer with
  | error fault =>
      cases use with
      | failed injected => exact .failed injected
  | ok count =>
      cases use with
      | done clear pipes => exact .done clear pipes

theorem control_use {interface : BenchInterface} {setup : Setup} {buffer data : Bytes}
    {bench host : Bench} {answer : Except Failure Nat}
    (fits : setup.length.toNat ≤ buffer.length)
    (called : Access.control (σ := Bench) interface setup buffer bench = ((answer, data), host)) :
    Use bench .controlRequest (.controlRequest interface.device setup Timeouts.control) buffer
      answer data host := by
  unfold Access.control Access.onDataStage at called
  rw [if_neg (by omega)] at called
  rcases requested : NativeLayer.controlRequest (σ := Bench) interface setup Timeouts.control
    (buffer.take setup.length.toNat) bench with ⟨⟨reply, stage⟩, after⟩
  have use := answerControl_use (buffer.drop setup.length.toNat) requested
  rw [List.take_append_drop] at use
  simp only [requested] at called
  cases called
  exact mapCount_use _ use

theorem request_use {device : Nat} {setup : Setup} {buffer data : Bytes} {bench host : Bench}
    {answer : Except Failure Unit} (fits : setup.length.toNat ≤ buffer.length)
    (called : Access.request (σ := Bench) device setup buffer bench = ((answer, data), host)) :
    Use bench .deviceRequest (.deviceRequest device setup) buffer answer data host := by
  unfold Access.request Access.onDataStage at called
  rw [if_neg (by omega)] at called
  rcases requested : NativeLayer.deviceRequest (σ := Bench) device setup
    (buffer.take setup.length.toNat) bench with ⟨⟨reply, stage⟩, after⟩
  have use := answerControl_use (buffer.drop setup.length.toNat) requested
  rw [List.take_append_drop] at use
  simp only [requested] at called
  cases called
  cases reply with
  | error fault => exact mapCount_use (fun _ => ()) use
  | ok count => exact mapCount_use (fun _ => ()) use

theorem write_use {interface : BenchInterface} {pipe : UInt8} {data : Bytes} {bench host : Bench}
    {answer : Except Failure Unit}
    (called : Access.write (σ := Bench) interface pipe data bench = (answer, host)) :
    Use bench .writePipe (.writePipe interface.device pipe data Timeouts.pipe) data answer data
      host := by
  unfold Access.write at called
  rcases written : NativeLayer.writePipe (σ := Bench) interface pipe Timeouts.pipe data bench with
    ⟨reply, after⟩
  rw [written] at called
  cases called
  exact observe_use data written

theorem pipeProperties_use {interface : BenchInterface} {pipe : UInt8} {bench host : Bench}
    {answer : Except Failure Pipe}
    (called : Access.pipeProperties (σ := Bench) interface pipe bench = (answer, host)) :
    Use bench .getPipeProperties (.pipeProperties interface.device pipe) [] answer [] host := by
  unfold Access.pipeProperties at called
  rcases described : NativeLayer.pipeProperties (σ := Bench) interface pipe bench with
    ⟨reply, after⟩
  rw [described] at called
  cases called
  exact observe_use [] described

theorem read_use {interface : BenchInterface} {pipe : UInt8} {buffer data : Bytes}
    {bench host : Bench} {answer : Except Failure Nat}
    (called : Access.read (σ := Bench) interface pipe buffer bench = ((answer, data), host)) :
    Use bench .readPipe (.readPipe interface.device pipe buffer.length Timeouts.pipe) buffer
      answer data host := by
  unfold Access.read at called
  rcases taken : NativeLayer.readPipe (σ := Bench) interface pipe Timeouts.pipe buffer bench with
    ⟨⟨reply, bytes⟩, after⟩
  rw [taken] at called
  cases called
  refine mapCount_use _ ?_
  change Bench.readPipe interface pipe Timeouts.pipe buffer bench = _ at taken
  unfold readPipe at taken
  simp only [enter, record_eq] at taken
  cases told : bench.fault? .readPipe with
  | some fault =>
      simp only [told] at taken
      cases taken
      exact .failed fun other same => Option.some.inj (told.symm.trans same)
  | none =>
      simp only [told] at taken
      split at taken
      · cases taken
        exact .failed (by simp [told])
      · split at taken
        · cases taken
          exact .done told (pipes_modify _ _ _ fun _ => rfl)
        · cases taken
          exact .failed (by simp [told])

end Bench

end UsbHost
