import UsbHost.Proofs.Words.Operands

/-!
The stack effects of the words. Whatever lies under a word's arguments stays where it is, and what
the word leaves on it depends on how the word ended.
-/

namespace UsbHost

open Slot

namespace Session

variable {σ : Type} [NativeLayer σ]

def cells (session : Session σ) : List Cell := session.machine.stack.reverse

def HoldsHandle (session : Session σ) (word : Word) (arguments : List Cell) : Prop :=
  ∀ kind, word.kind? = some kind →
    ∃ handle, arguments.getLast? = some handle ∧ (session.object? kind handle).isSome

/-- What a word that succeeds pushes, the deepest cell first. -/
inductive Yields (session after : Session σ) : Word → List Cell → List Cell → Prop
  | interfaceAbsent {operands : FindOperands} {host}
      (called : Access.findInterface operands.vendorId operands.productId session.host =
        (.ok none, host)) :
      Yields session after .findInterface operands.cells [0]
  | interfaceFound {operands : FindOperands} {interface host}
      (called : Access.findInterface operands.vendorId operands.productId session.host =
        (.ok (some interface), host))
      (kept : after.interfaces.get? session.interfaces.next = some interface) :
      Yields session after .findInterface operands.cells [session.interfaces.next, -1]
  | interfaceClosed {handle} : Yields session after .closeInterface [handle] []
  | controlled {operands : ControlOperands} {interface buffer count data host}
      (live : session.interfaces.get? operands.handle = some interface)
      (granted : session.machine.window? operands.address operands.setup.length.toNat = some buffer)
      (called : Access.control interface operands.setup buffer session.host =
        ((.ok count, data), host)) :
      Yields session after .control operands.cells [Int64.ofNat count]
  | described {operands : PipeOperands} {interface} {pipe : Pipe} {host}
      (live : session.interfaces.get? operands.handle = some interface)
      (called : Access.pipeProperties interface operands.pipe session.host = (.ok pipe, host)) :
      Yields session after .pipeProperties operands.cells
        [Int64.ofNat pipe.direction.code, Int64.ofNat pipe.number.toNat,
          Int64.ofNat pipe.kind.code, Int64.ofNat pipe.maxPacketSize.toNat,
          Int64.ofNat pipe.interval.toNat]
  | readFrom {operands : TransferOperands} {interface buffer count data host}
      (bounded : operands.size < 0x8000000000000000)
      (live : session.interfaces.get? operands.handle = some interface)
      (granted : session.machine.window? operands.address operands.size = some buffer)
      (called : Access.read interface operands.pipe buffer session.host =
        ((.ok count, data), host)) :
      Yields session after .read operands.cells [Int64.ofNat count]
  | writtenTo {operands : TransferOperands} : Yields session after .write operands.cells []
  | deviceAbsent {operands : FindOperands} {host}
      (called : Access.findDevice operands.vendorId operands.productId session.host =
        (.ok none, host)) :
      Yields session after .findDevice operands.cells [0]
  | deviceFound {operands : FindOperands} {device host}
      (called : Access.findDevice operands.vendorId operands.productId session.host =
        (.ok (some device), host))
      (kept : after.devices.get? session.devices.next = some device) :
      Yields session after .findDevice operands.cells [session.devices.next, -1]
  | deviceClosed {handle} : Yields session after .closeDevice [handle] []
  | requested {operands : ControlOperands} : Yields session after .request operands.cells []

inductive Leaves (session after : Session σ) (word : Word) (below arguments : List Cell) :
    Except WordFault Unit → List Cell → Prop
  | invalid {fault before} (refuses : Refuses word.slots arguments fault before) :
      Leaves session after word below arguments (.error fault) (below ++ before)
  | unknown {kind handle} (admitted : List.Forall₂ Admits word.slots arguments)
      (uses : word.kind? = some kind) (last : arguments.getLast? = some handle)
      (absent : session.object? kind handle = none) :
      Leaves session after word below arguments (.error (.unknownHandle handle)) below
  | outside {address length} (admitted : List.Forall₂ Admits word.slots arguments)
      (holds : session.HoldsHandle word arguments)
      (asked : word.window? arguments = some (address, length))
      (ungranted : session.machine.window? address length = none) :
      Leaves session after word below arguments (.error (.badAddress address length)) below
  | failed {failure} (admitted : List.Forall₂ Admits word.slots arguments)
      (holds : session.HoldsHandle word arguments) :
      Leaves session after word below arguments (.error (.usb failure))
        (below ++ if word = .control then [0] else [])
  | done {outputs} (admitted : List.Forall₂ Admits word.slots arguments)
      (holds : session.HoldsHandle word arguments)
      (yields : Yields session after word arguments outputs) :
      Leaves session after word below arguments (.ok ()) (below ++ outputs)

structure KeepsStack (session after : Session σ) (word : Word) (result : Except WordFault Unit) :
    Prop where
  enough : ∀ below arguments, session.cells = below ++ arguments →
    arguments.length = word.slots.length →
    Leaves session after word below arguments result after.cells
  few : session.cells.length < word.slots.length →
    (Lacks word.slots session.cells ∧ result = .error .stackUnderflow ∧ after.cells = []) ∨
      ∃ fault, Refuses word.slots session.cells fault after.cells ∧ result = .error fault

section

variable {session after : Session σ} {word : Word} {result : Except WordFault Unit}
  {arguments rest : List Cell}

theorem KeepsStack.of_taken
    (taken : takeAll word.slots.reverse session.machine.stack = .ok arguments.reverse rest)
    (leaves : List.Forall₂ Admits word.slots arguments →
      Leaves session after word rest.reverse arguments result after.cells) :
    KeepsStack session after word result := by
  obtain ⟨admitted, split⟩ := Slot.takeAll_ok taken
  rw [List.reverse_reverse] at admitted
  have turned : session.cells = rest.reverse ++ arguments := by
    rw [Session.cells, split, List.reverse_append, List.reverse_reverse]
  have sameLength := admitted.length_eq
  constructor
  · intro below others parts enough
    rw [turned] at parts
    obtain ⟨rfl, rfl⟩ := List.append_inj' parts (by omega)
    exact leaves admitted
  · intro few
    rw [turned, List.length_append] at few
    omega

theorem KeepsStack.of_failed {failure : Failure}
    (taken : takeAll word.slots.reverse session.machine.stack = .ok arguments.reverse rest)
    (holds : session.HoldsHandle word arguments)
    (left : after.cells = rest.reverse ++ if word = .control then [0] else []) :
    KeepsStack session after word (.error (.usb failure)) := by
  refine .of_taken taken ?_
  intro admitted
  rw [left]
  exact .failed admitted holds

theorem KeepsStack.of_done {outputs : List Cell}
    (taken : takeAll word.slots.reverse session.machine.stack = .ok arguments.reverse rest)
    (holds : session.HoldsHandle word arguments)
    (yields : Yields session after word arguments outputs)
    (left : after.cells = rest.reverse ++ outputs) : KeepsStack session after word (.ok ()) := by
  refine .of_taken taken ?_
  intro admitted
  rw [left]
  exact .done admitted holds yields

theorem KeepsStack.of_answer {α : Type} {answer : Except Failure α}
    (taken : takeAll word.slots.reverse session.machine.stack = .ok arguments.reverse rest)
    (holds : session.HoldsHandle word arguments)
    (failed : ∀ failure, answer = .error failure →
      after.cells = rest.reverse ++ if word = .control then [0] else [])
    (done : ∀ value, answer = .ok value →
      ∃ outputs, Yields session after word arguments outputs ∧
        after.cells = rest.reverse ++ outputs) :
    KeepsStack session after word (ended answer) := by
  cases answer with
  | error failure => exact .of_failed taken holds (failed failure rfl)
  | ok value =>
      obtain ⟨outputs, yields, left⟩ := done value rfl
      exact .of_done taken holds yields left

theorem KeepsStack.of_refused {fault : WordFault}
    (failed : takeAll word.slots.reverse session.machine.stack = .error fault rest)
    (left : after.machine.stack = rest) : KeepsStack session after word (.error fault) := by
  subst left
  rcases Slot.takeAll_error failed with refuses | ⟨lacks, rfl, emptied⟩
  · constructor
    · intro below arguments parts enough
      change Refuses word.slots session.cells fault after.cells at refuses
      rw [parts] at refuses
      obtain ⟨before, left, refuses⟩ := refuses.of_append enough
      rw [left]
      exact .invalid refuses
    · intro few
      exact Or.inr ⟨fault, refuses, rfl⟩
  · constructor
    · intro below arguments parts enough
      have short := lacks.length_lt
      change session.cells.length < _ at short
      rw [parts, List.length_append] at short
      omega
    · intro few
      refine Or.inl ⟨lacks, rfl, ?_⟩
      rw [cells, emptied, List.reverse_nil]

theorem holdsHandle_of_live {kind : HandleKind} {handle : Cell}
    {entry : NativeLayer.Interface σ ⊕ NativeLayer.Device σ} (uses : word.kind? = some kind)
    (last : arguments.getLast? = some handle) (live : session.object? kind handle = some entry) :
    session.HoldsHandle word arguments := by
  intro other usesOther
  rw [uses] at usesOther
  cases usesOther
  exact ⟨handle, last, by rw [live]; rfl⟩

theorem holdsHandle_of_lookup (lookup : word.kind? = none) :
    session.HoldsHandle word arguments := by
  intro kind uses
  rw [lookup] at uses
  cases uses

theorem cells_of_stack (top : List Cell) (pushed : after.machine.stack = top ++ rest) :
    after.cells = rest.reverse ++ top.reverse := by
  rw [cells, pushed, List.reverse_append]

theorem takeAll_close {handle : Cell} (single : word.slots = [.any])
    (taken : session.machine.stack = handle :: rest) :
    takeAll word.slots.reverse session.machine.stack = .ok [handle].reverse rest := by
  rw [single, taken]
  rfl

theorem arguments_of_takeHandle {kind : HandleKind} {handle : Cell} {stack : List Cell}
    (taken : word.takeHandle stack = .ok (some handle) rest) (uses : word.kind? = some kind) :
    ∃ arguments : List Cell, takeAll word.slots.reverse stack = .ok arguments.reverse rest ∧
      arguments.getLast? = some handle := by
  rw [word.takeHandle_cells, uses] at taken
  obtain ⟨cells, taken, top⟩ := Take.of_map_ok taken
  refine ⟨cells.reverse, ?_, ?_⟩
  · rw [List.reverse_reverse]
    exact taken
  · rw [List.getLast?_reverse]
    exact top

end

/-- Every word keeps to its stack effect, over any native layer and in any state. -/
theorem run_keeps_stack (word : Word) (session : Session σ) :
    KeepsStack session (session.run word).2 word (session.run word).1 := by
  have ending := run_ended word session
  generalize (session.run word).1 = result, (session.run word).2 = after at ending
  cases ending with
  | refused faulty =>
      rw [word.takeHandle_cells] at faulty
      exact .of_refused (Take.map_error faulty) rfl
  | unknown taken uses absent =>
      obtain ⟨arguments, taken, last⟩ := arguments_of_takeHandle taken uses
      refine .of_taken taken ?_
      intro admitted
      exact .unknown admitted uses last absent
  | @outside _ kind handle entry stack address length taken uses live asked ungranted =>
      obtain ⟨arguments, taken, last⟩ := arguments_of_takeHandle taken uses
      rw [word.takeWindow_cells] at asked
      have windowAsked : word.window? arguments = some (address, length) := by
        simpa [Functor.map, EStateM.map, taken] using asked
      refine .of_taken taken ?_
      intro admitted
      exact .outside admitted (holdsHandle_of_live uses last live) windowAsked ungranted
  | interfaceFailed taken called =>
      refine .of_failed (Take.takeAll_ok FindOperands.take_cells taken)
        (holdsHandle_of_lookup rfl) ?_
      exact (List.append_nil _).symm
  | interfaceAbsent taken called =>
      exact .of_done (Take.takeAll_ok FindOperands.take_cells taken) (holdsHandle_of_lookup rfl)
        (.interfaceAbsent called) (cells_of_stack [notFound] rfl)
  | interfaceFound taken called =>
      refine .of_done (Take.takeAll_ok FindOperands.take_cells taken) (holdsHandle_of_lookup rfl)
        (.interfaceFound called ?_) (cells_of_stack [found, session.interfaces.next] rfl)
      simp
  | interfaceKept taken live called =>
      exact .of_failed (takeAll_close rfl taken)
        (holdsHandle_of_live rfl rfl (object?_interface live)) (List.append_nil _).symm
  | interfaceClosed taken live called =>
      exact .of_done (takeAll_close rfl taken)
        (holdsHandle_of_live rfl rfl (object?_interface live)) .interfaceClosed
        (List.append_nil _).symm
  | @controlled operands stack interface buffer answer data host taken live granted called =>
      refine .of_answer (Take.takeAll_ok ControlOperands.take_cells taken)
        (holdsHandle_of_live rfl rfl (object?_interface live)) ?_ ?_
      · rintro failure rfl
        -- This word leaves a count even when its request failed.
        exact cells_of_stack [0] rfl
      · rintro count rfl
        exact ⟨_, .controlled live granted called, cells_of_stack [Int64.ofNat count] rfl⟩
  | @described operands stack interface answer host taken live called =>
      refine .of_answer (Take.takeAll_ok PipeOperands.take_cells taken)
        (holdsHandle_of_live rfl rfl (object?_interface live)) ?_ ?_
      · rintro failure rfl
        exact (List.append_nil _).symm
      · rintro pipe rfl
        exact ⟨_, .described live called, cells_of_stack pipe.cells.reverse rfl⟩
  | @readFrom operands stack interface buffer answer data host taken live granted called =>
      refine .of_answer (Take.takeAll_ok TransferOperands.take_cells taken)
        (holdsHandle_of_live rfl rfl (object?_interface live)) ?_ ?_
      · rintro failure rfl
        exact (List.append_nil _).symm
      · rintro count rfl
        exact ⟨_, .readFrom (TransferOperands.size_lt taken) live granted called,
          cells_of_stack [Int64.ofNat count] rfl⟩
  | @writtenTo operands stack interface buffer answer host taken live granted called =>
      refine .of_answer (Take.takeAll_ok TransferOperands.take_cells taken)
        (holdsHandle_of_live rfl rfl (object?_interface live)) ?_ ?_
      · rintro failure rfl
        exact (List.append_nil _).symm
      · rintro value rfl
        exact ⟨[], .writtenTo, (List.append_nil _).symm⟩
  | deviceFailed taken called =>
      refine .of_failed (Take.takeAll_ok FindOperands.take_cells taken)
        (holdsHandle_of_lookup rfl) ?_
      exact (List.append_nil _).symm
  | deviceAbsent taken called =>
      exact .of_done (Take.takeAll_ok FindOperands.take_cells taken) (holdsHandle_of_lookup rfl)
        (.deviceAbsent called) (cells_of_stack [notFound] rfl)
  | deviceFound taken called =>
      refine .of_done (Take.takeAll_ok FindOperands.take_cells taken) (holdsHandle_of_lookup rfl)
        (.deviceFound called ?_) (cells_of_stack [found, session.devices.next] rfl)
      simp
  | deviceClosed taken live =>
      exact .of_done (takeAll_close rfl taken) (holdsHandle_of_live rfl rfl (object?_device live))
        .deviceClosed (List.append_nil _).symm
  | @requested operands stack device buffer answer data host taken live granted called =>
      refine .of_answer (Take.takeAll_ok ControlOperands.take_cells taken)
        (holdsHandle_of_live rfl rfl (object?_device live)) ?_ ?_
      · rintro failure rfl
        exact (List.append_nil _).symm
      · rintro value rfl
        exact ⟨[], .requested, (List.append_nil _).symm⟩

end Session

end UsbHost
