import UsbHost.Proofs.Bench.Effect
import UsbHost.Proofs.Words.Machine

/-!
A word that fails on a bench undoes itself: handles, memory and devices are as they were before it.
Only the operands that it took are gone, and the calls that it made stay in the log; a word that is
refused before it reaches the bench makes none.
-/

namespace UsbHost

namespace Session

def SameButStackAndLog (before after : Session Bench) : Prop :=
  after = { before with
    machine := { before.machine with stack := after.machine.stack }
    host := { before.host with calls := after.host.calls } }

theorem sameButStackAndLog_recordAll (session : Session Bench) (stack : List Cell)
    (calls : List BenchCall) :
    SameButStackAndLog session
      { session.withStack stack with host := session.host.recordAll calls } := rfl

theorem sameButStackAndLog_store (session : Session Bench) (stack : List Cell)
    (calls : List BenchCall) {address : Cell} {length : Nat} {buffer : Bytes}
    (granted : session.machine.window? address length = some buffer) :
    SameButStackAndLog session
      { session with
        host := session.host.recordAll calls
        machine := ⟨stack, (session.machine.store address buffer).memory⟩ } := by
  rw [Machine.store_window granted]
  rfl

end Session

open Session

theorem WordEnding.sameButStackAndLog {session after : Session Bench} {word : Word}
    {fault : WordFault} (ending : WordEnding session word (.error fault) after) :
    SameButStackAndLog session after := by
  generalize failed : (.error fault : Except WordFault Unit) = result at ending
  cases ending with
  | refused faulty => rfl
  | unknown taken uses absent => rfl
  | outside taken uses live asked ungranted => rfl
  | interfaceFailed taken called =>
      obtain ⟨calls, -, rfl⟩ := Bench.findInterface_search called
      exact sameButStackAndLog_recordAll session _ calls
  | deviceFailed taken called =>
      obtain ⟨calls, -, rfl⟩ := Bench.findDevice_resolution called
      exact sameButStackAndLog_recordAll session _ calls
  | interfaceKept taken live called =>
      obtain ⟨calls, -, rfl⟩ := Bench.closeInterface_close called
      exact sameButStackAndLog_recordAll session _ calls
  | interfaceAbsent taken called => cases failed
  | interfaceFound taken called => cases failed
  | interfaceClosed taken live called => cases failed
  | deviceAbsent taken called => cases failed
  | deviceFound taken called => cases failed
  | deviceClosed taken live => cases failed
  | controlled taken live granted called =>
      have size := Machine.length_of_window? granted
      cases Bench.control_use (by omega) called with
      | failed injected => exact sameButStackAndLog_store session _ _ granted
      | done clear pipes => cases failed
  | requested taken live granted called =>
      have size := Machine.length_of_window? granted
      cases Bench.request_use (by omega) called with
      | failed injected => exact sameButStackAndLog_store session _ _ granted
      | done clear pipes => cases failed
  | readFrom taken live granted called =>
      cases Bench.read_use called with
      | failed injected => exact sameButStackAndLog_store session _ _ granted
      | done clear pipes => cases failed
  | writtenTo taken live granted called =>
      cases Bench.write_use called with
      | failed injected => exact sameButStackAndLog_recordAll session _ _
      | done clear pipes => cases failed
  | described taken live called =>
      cases Bench.pipeProperties_use called with
      | failed injected => exact sameButStackAndLog_recordAll session _ _
      | done clear pipes => cases failed

namespace Session

/-- A word that fails leaves handles, memory and devices as they were; and one that fails before it
reaches the bench leaves no call behind either. -/
theorem failed_word_undoes_itself (session : Session Bench) (word : Word) (fault : WordFault)
    (failed : (session.run word).1 = .error fault) :
    SameButStackAndLog session (session.run word).2 ∧
      (fault.isUsb = false → (session.run word).2.host = session.host) := by
  have ending := run_ended word session
  rw [failed] at ending
  refine ⟨ending.sameButStackAndLog, ?_⟩
  intro plain
  obtain ⟨stack, same⟩ := of_refusal ending plain
  rw [same]
  rfl

def stuck : Session Bench where
  host := Bench.fail .interfaceClose .busy { devices := [.probe] }
  machine := { stack := [1, 7] }
  interfaces := { next := 2, entries := [(1, ⟨0, true⟩)] }

theorem stuck_close_undoes_itself :
    (stuck.run .closeInterface).1 = .error (.usb (.native .interfaceClose .busy)) ∧
      SameButStackAndLog stuck (stuck.run .closeInterface).2 :=
  ⟨rfl, (failed_word_undoes_itself stuck .closeInterface
    (.usb (.native .interfaceClose .busy)) rfl).1⟩

end Session

end UsbHost
