import UsbHost.Proofs.Words.Ending
import UsbHost.Proofs.Words.Machine

/-!
Windows of memory that words ask for. A window is granted where it lies inside the memory as a
whole, and a word that asks for any other is refused; no word changes a byte outside the window that
it was granted, as long as the layer below hands every buffer back as long as it was.
-/

namespace UsbHost

class KeepsBuffers (σ : Type) [NativeLayer σ] : Prop where
  controlRequest (interface : NativeLayer.Interface σ) (setup : Setup) (timeouts : Timeouts)
    (stage : Bytes) (host : σ) :
    (NativeLayer.controlRequest interface setup timeouts stage host).1.2.length = stage.length
  deviceRequest (device : NativeLayer.Device σ) (setup : Setup) (stage : Bytes) (host : σ) :
    (NativeLayer.deviceRequest device setup stage host).1.2.length = stage.length
  readPipe (interface : NativeLayer.Interface σ) (pipe : UInt8) (timeouts : Timeouts)
    (buffer : Bytes) (host : σ) :
    (NativeLayer.readPipe interface pipe timeouts buffer host).1.2.length = buffer.length

namespace Access

theorem length_of_onDataStage {σ : Type} {length : Nat} {buffer data : Bytes} {host after : σ}
    {answer : Except Failure Nat} {request : Bytes → σ → (Except Failure Nat × Bytes) × σ}
    (called : onDataStage length buffer host request = ((answer, data), after))
    (keeps : ∀ stage, (request stage host).1.2.length = stage.length) :
    data.length = buffer.length := by
  unfold onDataStage at called
  split at called
  · cases called
    rfl
  · cases called
    rw [List.length_append, keeps, List.length_take, List.length_drop]
    omega

section

variable {σ : Type} [NativeLayer σ] [KeepsBuffers σ] {buffer data : Bytes} {host after : σ}
  {setup : Setup}

theorem length_of_control {interface : NativeLayer.Interface σ} {answer : Except Failure Nat}
    (called : Access.control interface setup buffer host = ((answer, data), after)) :
    data.length = buffer.length :=
  length_of_onDataStage called fun stage =>
    KeepsBuffers.controlRequest interface setup Timeouts.control stage host

theorem length_of_request {device : NativeLayer.Device σ} {answer : Except Failure Unit}
    (called : Access.request device setup buffer host = ((answer, data), after)) :
    data.length = buffer.length := by
  unfold Access.request at called
  split at called
  rename_i staged
  cases called
  exact length_of_onDataStage staged fun stage =>
    KeepsBuffers.deviceRequest device setup stage host

theorem length_of_read {interface : NativeLayer.Interface σ} {pipe : UInt8}
    {answer : Except Failure Nat}
    (called : Access.read interface pipe buffer host = ((answer, data), after)) :
    data.length = buffer.length := by
  have kept := KeepsBuffers.readPipe interface pipe Timeouts.pipe buffer host
  unfold Access.read at called
  cases called
  exact kept

end

end Access

theorem Word.length_lt_of_takeWindow {word : Word} {stack rest : List Cell} {address : Cell}
    {length : Nat} (asked : word.takeWindow stack = .ok (some (address, length)) rest) :
    length < 0x8000000000000000 := by
  cases word with
  | findInterface | findDevice | closeInterface | closeDevice | pipeProperties =>
      obtain ⟨operands, -, silent⟩ := Take.of_map_ok asked
      cases silent
  | control | request =>
      obtain ⟨operands, -, same⟩ := Take.of_map_ok asked
      cases same
      have bounded := operands.setup.length.toNat_lt
      omega
  | read | write =>
      obtain ⟨operands, taken, same⟩ := Take.of_map_ok asked
      cases same
      exact TransferOperands.size_lt taken

namespace Session

variable {σ : Type} [NativeLayer σ]

/-- A word whose operands are in order and whose handle is live asks for a window of memory. -/
inductive AsksFor (session : Session σ) (word : Word) (address : Cell) (length : Nat) : Prop
  | intro {kind handle entry rest} (uses : word.kind? = some kind)
      (taken : word.takeHandle session.machine.stack = .ok (some handle) rest)
      (live : session.object? kind handle = some entry)
      (asked : word.takeWindow session.machine.stack = .ok (some (address, length)) rest)

end Session

open Session

variable {σ : Type} [NativeLayer σ] {session after : Session σ} {word : Word}
  {result : Except WordFault Unit}

theorem WordEnding.asksFor_of_badAddress {address : Cell} {length : Nat}
    (ending : WordEnding session word (.error (.badAddress address length)) after) :
    session.AsksFor word address length ∧ session.machine.window? address length = none := by
  generalize failed : (.error (.badAddress address length) : Except WordFault Unit) = result
    at ending
  cases ending with
  | refused faulty =>
      cases failed
      rcases word.takeHandle_isPlain _ _ _ faulty with wrong | ⟨argument, value, wrong⟩ <;>
        cases wrong
  | unknown | interfaceFailed | interfaceKept | deviceFailed => cases failed
  | outside taken uses live asked ungranted =>
      cases failed
      exact ⟨.intro uses taken live asked, ungranted⟩
  | interfaceAbsent | interfaceFound | interfaceClosed | deviceAbsent | deviceFound
  | deviceClosed => cases failed
  | controlled | described | readFrom | writtenTo | requested =>
      have faulty := isUsb_of_ended failed
      cases faulty

theorem WordEnding.badAddress_of_asksFor {address : Cell} {length : Nat}
    (ending : WordEnding session word result after) (asks : session.AsksFor word address length)
    (ungranted : session.machine.window? address length = none) :
    result = .error (.badAddress address length) := by
  obtain ⟨usesAsked, takenAsked, liveAsked, asked⟩ := asks
  cases ending with
  | refused faulty =>
      rw [faulty] at takenAsked
      cases takenAsked
  | unknown taken uses absent =>
      rw [taken] at takenAsked
      rw [uses] at usesAsked
      cases takenAsked
      cases usesAsked
      rw [absent] at liveAsked
      cases liveAsked
  | outside taken uses live askedToo ungrantedToo =>
      rw [askedToo] at asked
      cases asked
      rfl
  | interfaceFailed | interfaceAbsent | interfaceFound | deviceFailed | deviceAbsent
  | deviceFound => cases usesAsked
  | interfaceKept | interfaceClosed | deviceClosed | described =>
      obtain ⟨operands, -, silent⟩ := Take.of_map_ok asked
      cases silent
  | controlled taken live granted called | requested taken live granted called
  | readFrom taken live granted called | writtenTo taken live granted called =>
      -- The stack alone tells which window is asked for, so it is the one that was granted.
      have same := (Take.map_ok _ taken).symm.trans asked
      cases same
      rw [granted] at ungranted
      cases ungranted

inductive Stores (session : Session σ) (word : Word) : Bytes → Prop
  | untouched : Stores session word session.machine.memory
  | stored {address : Cell} {buffer data : Bytes} (asks : session.AsksFor word address data.length)
      (granted : session.machine.window? address data.length = some buffer) :
      Stores session word (session.machine.store address data).memory

theorem Stores.of_window {kind : HandleKind} {handle address : Cell} {length : Nat}
    {rest : List Cell} {entry : NativeLayer.Interface σ ⊕ NativeLayer.Device σ}
    {buffer data : Bytes} (uses : word.kind? = some kind)
    (taken : word.takeHandle session.machine.stack = .ok (some handle) rest)
    (live : session.object? kind handle = some entry)
    (asked : word.takeWindow session.machine.stack = .ok (some (address, length)) rest)
    (granted : session.machine.window? address length = some buffer)
    (kept : data.length = buffer.length) :
    Stores session word (session.machine.store address data).memory := by
  rw [Machine.length_of_window? granted] at kept
  subst kept
  exact .stored (.intro uses taken live asked) granted

theorem WordEnding.stores [KeepsBuffers σ] (ending : WordEnding session word result after) :
    Stores session word after.machine.memory := by
  cases ending with
  | controlled taken live granted called =>
      exact .of_window rfl (Take.map_ok _ taken) (object?_interface live) (Take.map_ok _ taken)
        granted (Access.length_of_control called)
  | requested taken live granted called =>
      exact .of_window rfl (Take.map_ok _ taken) (object?_device live) (Take.map_ok _ taken)
        granted (Access.length_of_request called)
  | readFrom taken live granted called =>
      exact .of_window rfl (Take.map_ok _ taken) (object?_interface live) (Take.map_ok _ taken)
        granted (Access.length_of_read called)
  | _ => exact .untouched

theorem Machine.end_toNat {address : Cell} {length : Nat} (nonnegative : 0 ≤ address.toInt)
    (bounded : length < 0x8000000000000000) :
    ((address.toUInt64 + UInt64.ofNat length).toNat : Int) = address.toInt + length := by
  have positive : (0 : Int64) ≤ address := by
    rw [Int64.le_iff_toInt_le]
    exact nonnegative
  have below := address.toInt_lt
  rw [UInt64.toNat_add, Int64.toNat_toUInt64_of_le positive, UInt64.toNat_ofNat']
  have clamped : address.toNatClampNeg = address.toInt.toNat := rfl
  rw [clamped]
  omega

namespace Session

/-- What a word does to the memory, seen from its window. -/
structure KeepsMemory (session after : Session σ) (word : Word) (result : Except WordFault Unit) :
    Prop where
  grants : ∀ address length,
    length < 0x8000000000000000 ∨ session.machine.memory.length < UInt64.size →
      ((session.machine.window? address length).isSome ↔
        0 ≤ address.toInt ∧ address.toInt + length ≤ session.machine.memory.length)
  refuses : ∀ address length, result = .error (.badAddress address length) ↔
    session.AsksFor word address length ∧ session.machine.window? address length = none
  unwrapped : ∀ address length, session.AsksFor word address length → 0 ≤ address.toInt →
    ((address.toUInt64 + UInt64.ofNat length).toNat : Int) = address.toInt + length
  size : after.machine.memory.length = session.machine.memory.length
  inside : ∀ index : Nat, after.machine.memory[index]? ≠ session.machine.memory[index]? →
    ∃ address length, session.AsksFor word address length ∧
      (session.machine.window? address length).isSome ∧
      address.toInt ≤ index ∧ index < address.toInt + length

theorem run_keepsMemory [KeepsBuffers σ] (word : Word) (session : Session σ) :
    KeepsMemory session (session.run word).2 word (session.run word).1 := by
  have ending := run_ended word session
  generalize (session.run word).1 = result, (session.run word).2 = after at ending
  constructor
  case grants => exact session.machine.isWindow_iff
  case refuses =>
    intro address length
    constructor
    · rintro rfl
      exact ending.asksFor_of_badAddress
    · rintro ⟨asks, ungranted⟩
      exact ending.badAddress_of_asksFor asks ungranted
  case unwrapped =>
    rintro address length ⟨-, -, -, asked⟩ nonnegative
    exact Machine.end_toNat nonnegative (Word.length_lt_of_takeWindow asked)
  case size =>
    have stores := ending.stores
    generalize after.machine.memory = memory at stores
    cases stores with
    | untouched => rfl
    | stored asks granted => exact Machine.length_store granted
  case inside =>
    intro index changed
    have stores := ending.stores
    generalize after.machine.memory = memory at stores changed
    cases stores with
    | untouched => exact absurd rfl changed
    | @stored address buffer data asks granted =>
        obtain ⟨⟨nonnegative, fits⟩, -⟩ := Machine.window?_eq_some granted
        refine ⟨address, data.length, asks, by rw [granted]; rfl, ?_⟩
        by_contra outside
        refine changed (Machine.getElem?_store_of_outside granted ?_)
        omega

end Session

end UsbHost
