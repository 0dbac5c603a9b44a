import UsbHost.Proofs.Bench.Effect
import UsbHost.Proofs.Bus.Effect
import UsbHost.Proofs.Words.Lifecycle
import UsbHost.Proofs.Words.Machine

/-!
Benches and buses both keep handles as words expect: neither changes the pipes of a kept interface.
A bench reads them off the descriptors of the device, which no word changes; on a bus they were read
when the interface was found.
-/

namespace UsbHost

namespace Bench

theorem Use.pipes {α : Type} {bench host : Bench} {step : NativeStep} {call : BenchCall}
    {buffer data : Bytes} {answer : Except Failure α}
    (use : Use bench step call buffer answer data host) :
    host.devices.map BenchDevice.pipes = bench.devices.map BenchDevice.pipes := by
  cases use with
  | failed injected => rfl
  | done clear pipes => exact pipes

end Bench

theorem WordEnding.pipes {session after : Session Bench} {word : Word}
    {result : Except WordFault Unit} (ending : WordEnding session word result after) :
    after.host.devices.map BenchDevice.pipes = session.host.devices.map BenchDevice.pipes := by
  cases ending with
  | refused | unknown | outside => rfl
  | interfaceFailed taken called | interfaceAbsent taken called =>
      obtain ⟨calls, -, rfl⟩ := Bench.findInterface_search called
      rfl
  | interfaceFound taken called =>
      obtain ⟨calls, -, rfl⟩ := Bench.findInterface_search called
      rw [Bench.dropDisplaced_idle _ _ fun _ => rfl]
      rfl
  | deviceFailed taken called | deviceAbsent taken called =>
      obtain ⟨calls, -, rfl⟩ := Bench.findDevice_resolution called
      rfl
  | deviceFound taken called =>
      obtain ⟨calls, -, rfl⟩ := Bench.findDevice_resolution called
      rw [Bench.dropDisplaced_idle _ _ fun _ => rfl]
      rfl
  | interfaceKept taken live called | interfaceClosed taken live called =>
      obtain ⟨calls, -, rfl⟩ := Bench.closeInterface_close called
      rfl
  | deviceClosed taken live => rfl
  | controlled taken live granted called =>
      have size := Machine.length_of_window? granted
      exact (Bench.control_use (by omega) called).pipes
  | requested taken live granted called =>
      have size := Machine.length_of_window? granted
      exact (Bench.request_use (by omega) called).pipes
  | readFrom taken live granted called => exact (Bench.read_use called).pipes
  | writtenTo taken live granted called => exact (Bench.write_use called).pipes
  | described taken live called => exact (Bench.pipeProperties_use called).pipes

namespace Bench

def describedPipe? (bench : Bench) (interface : BenchInterface) (number : UInt8) : Option Pipe :=
  (bench.devices.map BenchDevice.pipes)[interface.device]?.bind (PipeTable.get? · number)

theorem describedPipe?_of_answer {interface : BenchInterface} {number : UInt8} {bench host : Bench}
    {pipe : Pipe}
    (called : Access.pipeProperties (σ := Bench) interface number bench = (.ok pipe, host)) :
    bench.describedPipe? interface number = some pipe := by
  unfold Access.pipeProperties at called
  simp only [NativeLayer.pipeProperties, observe_eq] at called
  cases told : bench.fault? .getPipeProperties with
  | some fault => simp [told, Access.atStep] at called
  | none =>
      simp only [told, pipe?, device?, devices_recordAll] at called
      rw [describedPipe?, List.getElem?_map]
      cases found : bench.devices[interface.device]? with
      | none => simp [found, Access.atStep] at called
      | some device =>
          cases described : device.pipes.get? number with
          | none => simp [found, described, Access.atStep] at called
          | some seen =>
              simp only [found, described, Access.atStep, Prod.mk.injEq, Except.ok.injEq] at called
              simp [described, called.1]

instance : SteadyPipes Bench where
  pipe? := describedPipe?
  pipe?_of_answer := describedPipe?_of_answer
  pipe?_run word session := by
    funext interface number
    rw [describedPipe?, (Session.run_ended word session).pipes]
    rfl
  pipe?_change change bench := by
    funext interface number
    cases change with
    | fail step fault => rfl
    | clearFaults => rfl
    | clearCalls => rfl
    | queue device data =>
        simp only [describedPipe?]
        rw [show (ChangingHost.change (BenchChange.queue device data) bench).devices.map
          BenchDevice.pipes = bench.devices.map BenchDevice.pipes from
            pipes_modify _ _ _ fun _ => rfl]

end Bench

instance : SteadyPipes Bus where
  pipe? _ interface number := BusInterface.pipes interface |>.get? number
  pipe?_of_answer called := (Bus.pipeProperties_answer called).2 _ rfl
  pipe?_run _ _ := rfl
  pipe?_change _ _ := rfl

/-- The handles of a run live as they should, on a bench as on a bus. -/
theorem handles_keep_lifecycle (machine : Machine) :
    (∀ (host : Bench) (events : List (Event Bench)),
      (∀ kind, (issued kind ((Session.start host machine).history events)).length < 2 ^ 63 - 1) →
      Lifecycle (Session.start host machine) events) ∧
    ∀ (host : Bus) (events : List (Event Bus)),
      (∀ kind, (issued kind ((Session.start host machine).history events)).length < 2 ^ 63 - 1) →
      Lifecycle (Session.start host machine) events :=
  ⟨fun host events bounded => Session.lifecycle host machine events bounded,
    fun host events bounded => Session.lifecycle host machine events bounded⟩

def findAndCloseTwice {σ : Type} [ChangingHost σ] : List (Event σ) :=
  [.machine { stack := [0x5740, 0x0483] }, .word .findInterface, .machine { stack := [1] },
    .word .closeInterface, .machine { stack := [1] }, .word .closeInterface]

theorem probes_keep_lifecycle :
    issued .interface ((Session.start ({ devices := [.probe] } : Bench) {}).history
        findAndCloseTwice) = [1] ∧
      Lifecycle (Session.start ({ devices := [.probe] } : Bench) {}) findAndCloseTwice ∧
      Lifecycle (Session.start ({ devices := [{}] } : Bus) {}) findAndCloseTwice :=
  ⟨by decide,
    (handles_keep_lifecycle {}).1 _ _ fun kind => by cases kind <;> decide,
    (handles_keep_lifecycle {}).2 _ _ fun kind => by cases kind <;> decide⟩

end UsbHost
