import UsbHost.Proofs.Bus.Transfer
import UsbHost.Proofs.Memory

/-!
The data stage of a control request: the front of its buffer, as long as the setup says. A buffer
that is too short is refused before any call; any other gives rise to one native request, and what
lies behind the stage is left as it was.
-/

namespace UsbHost

namespace Access

/-- How an operation on the first bytes of a buffer comes out, where `native` is its request and
`answer` is what it makes of the report. -/
structure OnFront {σ α : Type} (length : Nat) (buffer : Bytes) (host : σ)
    (native : Bytes → σ → (Except NativeFault Nat × Bytes) × σ)
    (answer : Except NativeFault Nat → Except Failure α)
    (outcome : (Except Failure α × Bytes) × σ) : Prop where
  refused : buffer.length < length →
    outcome = ((.error (.bufferTooSmall length buffer.length), buffer), host)
  accepted : length ≤ buffer.length →
    ∀ needed available, outcome.1.1 ≠ .error (.bufferTooSmall needed available)
  asked : length ≤ buffer.length → ∃ report stage after,
    native (buffer.take length) host = ((report, stage), after) ∧
      outcome = ((answer report, stage ++ buffer.drop length), after)
  size : outcome.1.2.length = buffer.length
  behind : outcome.1.2.drop length = buffer.drop length

def NeverShort {α : Type} (answer : Except Failure α) : Prop :=
  ∀ needed available, answer ≠ .error (.bufferTooSmall needed available)

theorem atStep_neverShort {α : Type} (step : NativeStep) (answer : Except NativeFault α) :
    NeverShort (atStep step answer) := by
  cases answer with
  | error cause => nofun
  | ok value => nofun

theorem NeverShort.map {α β : Type} {answer : Except Failure α} (change : α → β)
    (never : NeverShort answer) : NeverShort (answer.map change) := by
  cases answer with
  | error failure =>
      intro needed available same
      cases same
      exact never needed available rfl
  | ok value => nofun

theorem onDataStage_onFront {σ : Type} {length : Nat} {buffer : Bytes} {host : σ}
    {native : Bytes → σ → (Except NativeFault Nat × Bytes) × σ}
    {answer : Except NativeFault Nat → Except Failure Nat}
    (keeps : ∀ stage, (native stage host).1.2.length = stage.length)
    (never : ∀ report, NeverShort (answer report)) :
    OnFront length buffer host native answer
      (onDataStage length buffer host fun stage host =>
        ((answer (native stage host).1.1, (native stage host).1.2), (native stage host).2)) := by
  unfold onDataStage
  by_cases short : buffer.length < length
  · rw [if_pos short]
    exact ⟨fun _ => rfl, by omega, by omega, rfl, rfl⟩
  · rw [if_neg short]
    have kept := keeps (buffer.take length)
    have full : (buffer.take length).length = length := by
      rw [List.length_take]
      omega
    refine ⟨fun below => absurd below short, fun _ => never _, fun _ => ?_, ?_, ?_⟩
    · exact ⟨_, _, _, rfl, rfl⟩
    · rw [List.length_append, kept, full, List.length_drop]
      omega
    -- The stage comes back as long as it was given, so the rest begins where it did before.
    · rw [List.drop_append_of_le_length (by omega), List.drop_of_length_le (by omega),
        List.nil_append]

theorem OnFront.map {σ α β : Type} {length : Nat} {buffer : Bytes} {host : σ}
    {native : Bytes → σ → (Except NativeFault Nat × Bytes) × σ}
    {answer : Except NativeFault Nat → Except Failure α} {outcome : (Except Failure α × Bytes) × σ}
    (front : OnFront length buffer host native answer outcome) (change : α → β) :
    OnFront length buffer host native (fun report => (answer report).map change)
      ((outcome.1.1.map change, outcome.1.2), outcome.2) where
  refused short := by
    rw [front.refused short]
    rfl
  accepted fits := NeverShort.map change (front.accepted fits)
  asked fits := by
    obtain ⟨report, stage, after, requested, rfl⟩ := front.asked fits
    exact ⟨report, stage, after, requested, rfl⟩
  size := front.size
  behind := front.behind

section

variable {σ : Type} [NativeLayer σ]

theorem control_onFront [KeepsBuffers σ] (interface : NativeLayer.Interface σ) (setup : Setup)
    (buffer : Bytes) (host : σ) :
    OnFront setup.length.toNat buffer host
      (NativeLayer.controlRequest interface setup Timeouts.control)
      (fun report =>
        atStep .controlRequest (report.map fun count => min count setup.length.toNat))
      (control interface setup buffer host) :=
  onDataStage_onFront
    (fun stage => KeepsBuffers.controlRequest interface setup Timeouts.control stage host)
    fun _ => atStep_neverShort _ _

theorem request_onFront [KeepsBuffers σ] (device : NativeLayer.Device σ) (setup : Setup)
    (buffer : Bytes) (host : σ) :
    OnFront setup.length.toNat buffer host (NativeLayer.deviceRequest device setup)
      (fun report => (atStep .deviceRequest report).map fun _ => ())
      (request device setup buffer host) :=
  (onDataStage_onFront (fun stage => KeepsBuffers.deviceRequest device setup stage host)
    fun _ => atStep_neverShort _ _).map fun _ => ()

theorem control_bounded {interface : NativeLayer.Interface σ} {setup : Setup} {buffer : Bytes}
    {host : σ} {count : Nat} (counted : (control interface setup buffer host).1.1 = .ok count) :
    count ≤ setup.length.toNat := by
  unfold control onDataStage at counted
  split at counted
  · cases counted
  · dsimp only at counted
    generalize (NativeLayer.controlRequest interface setup Timeouts.control
      (buffer.take setup.length.toNat) host).1.1 = report at counted
    cases report with
    | error cause => cases counted
    | ok reported =>
        cases counted
        exact Nat.min_le_right reported setup.length.toNat

theorem resolve_neverShort {α : Type} (criteria : Criteria)
    (query : NativeLayer.Plugin σ → σ → (Except NativeFault α × NativeLayer.Plugin σ) × σ)
    (host : σ) : NeverShort (resolve criteria query host).1 := by
  unfold resolve
  split
  · nofun
  · nofun
  · split
    · nofun
    · dsimp only
      split
      · nofun
      · nofun

theorem findInterface_neverShort (vendorId productId : UInt16) (host : σ) :
    NeverShort (findInterface vendorId productId host).1 := by
  have resolved :=
    resolve_neverShort (.interface vendorId productId) NativeLayer.queryInterface host
  unfold findInterface
  split
  · rename_i failure after found
    rw [found] at resolved
    intro needed available same
    cases same
    exact resolved needed available rfl
  · nofun
  · split
    · nofun
    · nofun

theorem closeInterface_neverShort (interface : NativeLayer.Interface σ) (host : σ) :
    NeverShort (closeInterface interface host).1 := by
  unfold closeInterface
  split
  · nofun
  · nofun

end

end Access

open Session in
theorem WordEnding.neverShort {σ : Type} [NativeLayer σ] [KeepsBuffers σ]
    {session after : Session σ} {word : Word} {result : Except WordFault Unit}
    (ending : WordEnding session word result after) (needed available : Nat) :
    result ≠ .error (.usb (.bufferTooSmall needed available)) := by
  have roomy {α : Type} {answer : Except Failure α} (never : Access.NeverShort answer) :
      ended answer ≠ .error (.usb (.bufferTooSmall needed available)) := by
    intro failed
    exact never needed available (eq_of_ended failed.symm)
  cases ending with
  | refused faulty =>
      rintro ⟨⟩
      rcases word.takeHandle_isPlain _ _ _ faulty with wrong | ⟨argument, value, wrong⟩ <;>
        cases wrong
  | unknown | outside | interfaceAbsent | interfaceFound | interfaceClosed | deviceAbsent
  | deviceFound | deviceClosed => nofun
  | interfaceFailed taken called =>
      rintro ⟨⟩
      exact Access.findInterface_neverShort _ _ _ _ _ (congrArg Prod.fst called)
  | deviceFailed taken called =>
      rintro ⟨⟩
      exact Access.resolve_neverShort _ _ _ _ _ (congrArg Prod.fst called)
  | interfaceKept taken live called =>
      rintro ⟨⟩
      exact Access.closeInterface_neverShort _ _ _ _ (congrArg Prod.fst called)
  | @controlled operands rest interface buffer answer data host taken live granted called =>
      have whole := Machine.length_of_window? granted
      have front := Access.control_onFront interface operands.setup buffer session.host
      have never := front.accepted whole.ge
      rw [called] at never
      exact roomy never
  | @requested operands rest device buffer answer data host taken live granted called =>
      have whole := Machine.length_of_window? granted
      have front := Access.request_onFront device operands.setup buffer session.host
      have never := front.accepted whole.ge
      rw [called] at never
      exact roomy never
  | described taken live called =>
      cases called
      exact roomy (Access.atStep_neverShort _ _)
  | readFrom taken live granted called =>
      cases called
      exact roomy (Access.atStep_neverShort _ _)
  | writtenTo taken live granted called =>
      cases called
      exact roomy (Access.atStep_neverShort _ _)

namespace Bench

theorem answerControl_logs (call : BenchCall) (step : NativeStep) (device : Nat) (setup : Setup)
    (stage : Bytes) (bench : Bench) :
    (answerControl call step device setup stage bench).2 = bench.recordAll [call] := by
  unfold answerControl
  rcases observed : observe call step (fun bench => (bench.device? device).map fun found =>
    found.answerControl setup stage) bench with ⟨seen, after⟩
  have recorded : bench.recordAll [call] = after :=
    congrArg Prod.snd ((observe_eq call step _ bench).symm.trans observed)
  rw [observed, recorded]
  cases seen with
  | error fault => rfl
  | ok reply => rfl

end Bench

namespace Bus

theorem control_logs (handle : BusHandle) (setup : Setup) (timeout : Nat) (stage : Bytes)
    (bus : Bus) (fits : stage.length < 0x10000) (timed : timeout < 0x100000000) :
    (bus.control handle setup timeout stage).2.calls =
      bus.calls ++ [.control handle.device setup stage.length timeout
        (if setup.isInput then [] else stage)] := by
  have length : lengthField stage.length = stage.length := Nat.mod_eq_of_lt fits
  have limit : timeoutField timeout = timeout := Nat.mod_eq_of_lt timed
  unfold control
  simp only [length, limit, List.take_length]
  obtain ⟨devices, taken⟩ := takeScript_devices handle.device none
    (bus.record (.control handle.device setup stage.length timeout
      (if setup.isInput then [] else stage)))
  rw [taken]
  rfl

/-- The library's requests, one for each direction. A request type of the other direction is turned
down before anything is done. -/
def controlTowards (isInput : Bool) (handle : BusHandle) (setup : Setup) (timeout : Nat)
    (stage : Bytes) (bus : Bus) : (Except BusFault Nat × Bytes) × Bus :=
  if setup.requestType &&& 0x80 = (if isInput then 0x80 else 0) then
    bus.control handle setup timeout stage
  else ((.error .invalidParameter, stage), bus)

end Bus

theorem Setup.isInput_eq (setup : Setup) : setup.isInput = setup.requestType.toNat.testBit 7 := by
  rw [Setup.isInput, EndpointDescriptor.top_bit]
  cases setup.requestType.toNat.testBit 7 with
  | false => rfl
  | true => rfl

theorem Bus.controlTowards_isInput (handle : BusHandle) (setup : Setup) (timeout : Nat)
    (stage : Bytes) (bus : Bus) :
    bus.controlTowards setup.isInput handle setup timeout stage =
      bus.control handle setup timeout stage := by
  unfold controlTowards
  refine if_pos ?_
  rw [Setup.isInput_eq, EndpointDescriptor.top_bit]

structure KeepsToStage (σ : Type) [NativeLayer σ] {Call : Type} (calls : σ → List Call)
    (controlCall : NativeLayer.Interface σ → Setup → Bytes → Call)
    (requestCall : NativeLayer.Device σ → Setup → Bytes → Call) : Prop where
  control : ∀ (interface : NativeLayer.Interface σ) setup buffer host,
    Access.OnFront setup.length.toNat buffer host
      (NativeLayer.controlRequest interface setup ⟨1000, 4000⟩)
      (fun report => Access.atStep .controlRequest
        (report.map fun count => min count setup.length.toNat))
      (Access.control interface setup buffer host)
  controlLogged : ∀ (interface : NativeLayer.Interface σ) setup buffer host,
    setup.length.toNat ≤ buffer.length →
      calls (Access.control interface setup buffer host).2 =
        calls host ++ [controlCall interface setup (buffer.take setup.length.toNat)]
  bounded : ∀ (interface : NativeLayer.Interface σ) setup buffer host count,
    (Access.control interface setup buffer host).1.1 = .ok count → count ≤ setup.length.toNat
  request : ∀ (device : NativeLayer.Device σ) setup buffer host,
    Access.OnFront setup.length.toNat buffer host (NativeLayer.deviceRequest device setup)
      (fun report => (Access.atStep .deviceRequest report).map fun _ => ())
      (Access.request device setup buffer host)
  requestLogged : ∀ (device : NativeLayer.Device σ) setup buffer host,
    setup.length.toNat ≤ buffer.length →
      calls (Access.request device setup buffer host).2 =
        calls host ++ [requestCall device setup (buffer.take setup.length.toNat)]
  words : ∀ (session : Session σ) word needed available,
    (session.run word).1 ≠ .error (.usb (.bufferTooSmall needed available))

theorem KeepsToStage.of_calls {σ : Type} [NativeLayer σ] [KeepsBuffers σ] {Call : Type}
    {calls : σ → List Call} {controlCall : NativeLayer.Interface σ → Setup → Bytes → Call}
    {requestCall : NativeLayer.Device σ → Setup → Bytes → Call}
    (controls : ∀ interface (setup : Setup) stage host, stage.length = setup.length.toNat →
      calls (NativeLayer.controlRequest interface setup Timeouts.control stage host).2 =
        calls host ++ [controlCall interface setup stage])
    (requests : ∀ device (setup : Setup) stage host, stage.length = setup.length.toNat →
      calls (NativeLayer.deviceRequest device setup stage host).2 =
        calls host ++ [requestCall device setup stage]) :
    KeepsToStage σ calls controlCall requestCall where
  control := Access.control_onFront
  controlLogged interface setup buffer host fits := by
    obtain ⟨report, stage, after, requested, ended⟩ :=
      (Access.control_onFront interface setup buffer host).asked fits
    have logged := controls interface setup (buffer.take setup.length.toNat) host (by simp [fits])
    rw [ended, ← logged, requested]
  bounded _ _ _ _ _ := Access.control_bounded
  request := Access.request_onFront
  requestLogged device setup buffer host fits := by
    obtain ⟨report, stage, after, requested, ended⟩ :=
      (Access.request_onFront device setup buffer host).asked fits
    have logged := requests device setup (buffer.take setup.length.toNat) host (by simp [fits])
    rw [ended, ← logged, requested]
  words session word := (Session.run_ended word session).neverShort

/-- A control request keeps to its data stage on either host. On a bus the timeouts are those of an
interface and of a whole device, and the library never turns a request down for its direction. -/
theorem control_keeps_to_stage :
    KeepsToStage Bench Bench.calls
        (fun interface setup _ =>
          .controlRequest (BenchInterface.device interface) setup ⟨1000, 4000⟩)
        (fun device setup _ => .deviceRequest device setup) ∧
      KeepsToStage Bus Bus.calls
        (fun interface setup stage =>
          .control (BusInterface.handle interface).device setup setup.length.toNat 4000
            (if setup.isInput then [] else stage))
        (fun handle setup stage =>
          .control (BusHandle.device handle) setup setup.length.toNat 0
            (if setup.isInput then [] else stage)) ∧
      (∀ setup : Setup, setup.isInput = setup.requestType.toNat.testBit 7) ∧
      ∀ handle (setup : Setup) timeout stage bus,
        Bus.controlTowards setup.isInput handle setup timeout stage bus =
          Bus.control handle setup timeout stage bus := by
  refine ⟨.of_calls ?_ ?_, .of_calls ?_ ?_, Setup.isInput_eq, Bus.controlTowards_isInput⟩
  · intro interface setup stage bench _
    exact congrArg Bench.calls (Bench.answerControl_logs _ _ _ setup stage bench)
  · intro device setup stage bench _
    exact congrArg Bench.calls (Bench.answerControl_logs _ _ _ setup stage bench)
  · intro interface setup stage bus whole
    have bounded := setup.length.toNat_lt
    rw [← whole]
    exact Bus.control_logs interface.handle setup 4000 stage bus (by omega) (by omega)
  · intro handle setup stage bus whole
    have bounded := setup.length.toNat_lt
    rw [← whole]
    exact Bus.control_logs handle setup 0 stage bus (by omega) (by omega)

end UsbHost
