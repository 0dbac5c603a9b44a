import UsbHost.Proofs.Words.HandleTable
import UsbHost.Proofs.Words.History

/-!
How a word can end. It is refused over its operands, its handle, or its window of memory, and has
then made no call; or it has made the one operation that it stands for, and the operation's answer
decides the rest. `run_ending` is the only place where a word is opened.
-/

namespace UsbHost

namespace WordFault

def isUsb : WordFault → Bool
  | usb _ => true
  | _ => false

end WordFault

namespace Take

def IsPlain {α : Type} (take : Take α) : Prop :=
  ∀ stack fault rest, take stack = .error fault rest →
    fault = .stackUnderflow ∨ ∃ argument value, fault = .invalidArgument argument value

theorem cell_isPlain : cell.IsPlain := by
  intro stack fault rest failed
  cases stack with
  | nil =>
      simp only [cell, EStateM.Result.error.injEq] at failed
      exact Or.inl failed.1.symm
  | cons top below => simp [cell] at failed

theorem pure_isPlain {α : Type} (value : α) : IsPlain (pure value) := by
  intro stack fault rest failed
  cases failed

theorem bind_isPlain {α β : Type} {take : Take α} {next : α → Take β} (first : take.IsPlain)
    (second : ∀ value, (next value).IsPlain) : IsPlain (take >>= next) := by
  intro stack fault rest failed
  simp only [bind, EStateM.bind] at failed
  cases taken : take stack with
  | ok value below =>
      simp only [taken] at failed
      exact second value below fault rest failed
  | error earlier below =>
      simp only [taken, EStateM.Result.error.injEq] at failed
      rw [← failed.1]
      exact first stack earlier below taken

theorem upTo_isPlain (limit : Nat) (argument : Argument) : (upTo limit argument).IsPlain := by
  refine bind_isPlain cell_isPlain ?_
  intro value
  split
  · exact pure_isPlain _
  · intro stack fault rest failed
    cases failed
    exact Or.inr ⟨argument, value, rfl⟩

theorem byte_isPlain (argument : Argument) : (byte argument).IsPlain :=
  bind_isPlain (upTo_isPlain _ argument) fun _ => pure_isPlain _

theorem half_isPlain (argument : Argument) : (half argument).IsPlain :=
  bind_isPlain (upTo_isPlain _ argument) fun _ => pure_isPlain _

theorem map_isPlain {α β : Type} {take : Take α} (change : α → β) (plain : take.IsPlain) :
    IsPlain (change <$> take) := by
  rw [← bind_pure_comp]
  exact bind_isPlain plain fun _ => pure_isPlain _

theorem map_ok {α β : Type} {take : Take α} (change : α → β) {stack rest : List Cell} {value : α}
    (taken : take stack = .ok value rest) : (change <$> take) stack = .ok (change value) rest := by
  simp only [Functor.map, EStateM.map, taken]

theorem map_error {α β : Type} {take : Take α} {change : α → β} {stack rest : List Cell}
    {fault : WordFault} (failed : (change <$> take) stack = .error fault rest) :
    take stack = .error fault rest := by
  simp only [Functor.map, EStateM.map] at failed
  cases taken : take stack with
  | ok value below => simp [taken] at failed
  | error earlier below => simpa [taken] using failed

theorem of_map_ok {α β : Type} {take : Take α} {change : α → β} {stack rest : List Cell}
    {value : β} (taken : (change <$> take) stack = .ok value rest) :
    ∃ first, take stack = .ok first rest ∧ change first = value := by
  simp only [Functor.map, EStateM.map] at taken
  cases earlier : take stack with
  | ok first below =>
      simp only [earlier] at taken
      cases taken
      exact ⟨first, rfl, rfl⟩
  | error fault below => simp [earlier] at taken

theorem bind_ok {α β : Type} {take : Take α} {next : α → Take β} {stack rest : List Cell}
    {value : β} (taken : (take >>= next) stack = .ok value rest) :
    ∃ first below, take stack = .ok first below ∧ next first below = .ok value rest := by
  simp only [bind, EStateM.bind] at taken
  cases earlier : take stack with
  | ok first below =>
      simp only [earlier] at taken
      exact ⟨first, below, rfl, taken⟩
  | error fault below => simp [earlier] at taken

theorem upTo_le {limit value : Nat} {argument : Argument} {stack rest : List Cell}
    (taken : upTo limit argument stack = .ok value rest) : value ≤ limit := by
  obtain ⟨cell, below, -, checked⟩ := bind_ok taken
  split at checked
  · rename_i bounded
    cases checked
    omega
  · cases checked

end Take

theorem FindOperands.take_isPlain : FindOperands.take.IsPlain :=
  Take.bind_isPlain (Take.half_isPlain _) fun _ =>
    Take.bind_isPlain (Take.half_isPlain _) fun _ => Take.pure_isPlain _

theorem PipeOperands.take_isPlain : PipeOperands.take.IsPlain :=
  Take.bind_isPlain Take.cell_isPlain fun _ =>
    Take.bind_isPlain (Take.byte_isPlain _) fun _ => Take.pure_isPlain _

theorem TransferOperands.take_isPlain : TransferOperands.take.IsPlain :=
  Take.bind_isPlain Take.cell_isPlain fun _ =>
    Take.bind_isPlain (Take.byte_isPlain _) fun _ =>
      Take.bind_isPlain (Take.upTo_isPlain _ _) fun _ =>
        Take.bind_isPlain Take.cell_isPlain fun _ => Take.pure_isPlain _

theorem ControlOperands.take_isPlain : ControlOperands.take.IsPlain :=
  Take.bind_isPlain Take.cell_isPlain fun _ =>
    Take.bind_isPlain Take.cell_isPlain fun _ =>
      Take.bind_isPlain (Take.half_isPlain _) fun _ =>
        Take.bind_isPlain (Take.half_isPlain _) fun _ =>
          Take.bind_isPlain (Take.half_isPlain _) fun _ =>
            Take.bind_isPlain (Take.byte_isPlain _) fun _ =>
              Take.bind_isPlain (Take.byte_isPlain _) fun _ => Take.pure_isPlain _

theorem TransferOperands.size_lt {operands : TransferOperands} {stack rest : List Cell}
    (taken : TransferOperands.take stack = .ok operands rest) :
    operands.size < 0x8000000000000000 := by
  obtain ⟨handle, _, -, taken⟩ := Take.bind_ok taken
  obtain ⟨pipe, _, -, taken⟩ := Take.bind_ok taken
  obtain ⟨size, _, sized, taken⟩ := Take.bind_ok taken
  obtain ⟨address, _, -, taken⟩ := Take.bind_ok taken
  cases taken
  have bounded := Take.upTo_le sized
  change size < 0x8000000000000000
  omega

/-- Takes every operand of a word off the stack and keeps the window of memory that it asks for. -/
def Word.takeWindow : Word → Take (Option (Cell × Nat))
  | findInterface | findDevice => (fun _ => none) <$> FindOperands.take
  | closeInterface | closeDevice => (fun _ => none) <$> Take.cell
  | control | request =>
    (fun operands => some (operands.address, operands.setup.length.toNat)) <$> ControlOperands.take
  | pipeProperties => (fun _ => none) <$> PipeOperands.take
  | read | write =>
    (fun operands => some (operands.address, operands.size)) <$> TransferOperands.take

theorem Word.takeHandle_isPlain (word : Word) : word.takeHandle.IsPlain := by
  cases word with
  | findInterface | findDevice => exact Take.map_isPlain _ FindOperands.take_isPlain
  | closeInterface | closeDevice => exact Take.map_isPlain _ Take.cell_isPlain
  | control | request => exact Take.map_isPlain _ ControlOperands.take_isPlain
  | pipeProperties => exact Take.map_isPlain _ PipeOperands.take_isPlain
  | read | write => exact Take.map_isPlain _ TransferOperands.take_isPlain

namespace Session

variable {σ : Type} [NativeLayer σ]

def withStack (stack : List Cell) (session : Session σ) : Session σ :=
  { session with machine.stack := stack }

def ended {α : Type} : Except Failure α → Except WordFault Unit
  | .error failure => .error (.usb failure)
  | .ok _ => .ok ()

def pushed {α : Type} (cells : α → List Cell) : Except Failure α → List Cell
  | .error _ => []
  | .ok value => cells value

def lookupCells (next : Cell) : Option Nat → List Cell
  | none => [notFound]
  | some _ => [found, next]

def requestCount : Except Failure Nat → Cell
  | .error _ => 0
  | .ok count => Int64.ofNat count

end Session

open Session in
inductive WordEnding {σ : Type} [NativeLayer σ] (session : Session σ) :
    Word → Except WordFault Unit → Session σ → Prop
  | refused {word fault stack} :
      word.takeHandle session.machine.stack = .error fault stack →
      WordEnding session word (.error fault) (session.withStack stack)
  | unknown {word kind handle stack} :
      word.takeHandle session.machine.stack = .ok (some handle) stack → word.kind? = some kind →
      session.object? kind handle = none →
      WordEnding session word (.error (.unknownHandle handle)) (session.withStack stack)
  | outside {word kind handle entry stack address length} :
      word.takeHandle session.machine.stack = .ok (some handle) stack → word.kind? = some kind →
      session.object? kind handle = some entry →
      word.takeWindow session.machine.stack = .ok (some (address, length)) stack →
      session.machine.window? address length = none →
      WordEnding session word (.error (.badAddress address length)) (session.withStack stack)
  | interfaceFailed {operands stack failure host} :
      FindOperands.take session.machine.stack = .ok operands stack →
      Access.findInterface operands.vendorId operands.productId session.host =
        (.error failure, host) →
      WordEnding session .findInterface (.error (.usb failure))
        { session.withStack stack with host }
  | interfaceAbsent {operands stack host} :
      FindOperands.take session.machine.stack = .ok operands stack →
      Access.findInterface operands.vendorId operands.productId session.host = (.ok none, host) →
      WordEnding session .findInterface (.ok ())
        { session.withStack (Session.notFound :: stack) with host }
  | interfaceFound {operands stack interface host} :
      FindOperands.take session.machine.stack = .ok operands stack →
      Access.findInterface operands.vendorId operands.productId session.host =
        (.ok (some interface), host) →
      WordEnding session .findInterface (.ok ())
        { session.withStack (Session.found :: session.interfaces.next :: stack) with
          host := dropDisplaced NativeLayer.dropInterface session.interfaces host
          interfaces := (session.interfaces.insert interface).2 }
  | interfaceKept {handle stack interface failure host} :
      session.machine.stack = handle :: stack →
      session.interfaces.get? handle = some interface →
      Access.closeInterface interface session.host = (.error failure, host) →
      WordEnding session .closeInterface (.error (.usb failure))
        { session.withStack stack with host }
  | interfaceClosed {handle stack interface host} :
      session.machine.stack = handle :: stack →
      session.interfaces.get? handle = some interface →
      Access.closeInterface interface session.host = (.ok (), host) →
      WordEnding session .closeInterface (.ok ())
        { session.withStack stack with host, interfaces := session.interfaces.erase handle }
  | controlled {operands stack interface buffer answer data host} :
      ControlOperands.take session.machine.stack = .ok operands stack →
      session.interfaces.get? operands.handle = some interface →
      session.machine.window? operands.address operands.setup.length.toNat = some buffer →
      Access.control interface operands.setup buffer session.host = ((answer, data), host) →
      WordEnding session .control (ended answer)
        { session with
          host, machine := ⟨requestCount answer :: stack,
            (session.machine.store operands.address data).memory⟩ }
  | described {operands stack interface answer host} :
      PipeOperands.take session.machine.stack = .ok operands stack →
      session.interfaces.get? operands.handle = some interface →
      Access.pipeProperties interface operands.pipe session.host = (answer, host) →
      WordEnding session .pipeProperties (ended answer)
        { session.withStack (pushed (fun pipe => pipe.cells.reverse) answer ++ stack) with host }
  | readFrom {operands stack interface buffer answer data host} :
      TransferOperands.take session.machine.stack = .ok operands stack →
      session.interfaces.get? operands.handle = some interface →
      session.machine.window? operands.address operands.size = some buffer →
      Access.read interface operands.pipe buffer session.host = ((answer, data), host) →
      WordEnding session .read (ended answer)
        { session with
          host, machine := ⟨pushed (fun count => [Int64.ofNat count]) answer ++ stack,
            (session.machine.store operands.address data).memory⟩ }
  | writtenTo {operands stack interface buffer answer host} :
      TransferOperands.take session.machine.stack = .ok operands stack →
      session.interfaces.get? operands.handle = some interface →
      session.machine.window? operands.address operands.size = some buffer →
      Access.write interface operands.pipe buffer session.host = (answer, host) →
      WordEnding session .write (ended answer) { session.withStack stack with host }
  | deviceFailed {operands stack failure host} :
      FindOperands.take session.machine.stack = .ok operands stack →
      Access.findDevice operands.vendorId operands.productId session.host =
        (.error failure, host) →
      WordEnding session .findDevice (.error (.usb failure)) { session.withStack stack with host }
  | deviceAbsent {operands stack host} :
      FindOperands.take session.machine.stack = .ok operands stack →
      Access.findDevice operands.vendorId operands.productId session.host = (.ok none, host) →
      WordEnding session .findDevice (.ok ())
        { session.withStack (Session.notFound :: stack) with host }
  | deviceFound {operands stack device host} :
      FindOperands.take session.machine.stack = .ok operands stack →
      Access.findDevice operands.vendorId operands.productId session.host =
        (.ok (some device), host) →
      WordEnding session .findDevice (.ok ())
        { session.withStack (Session.found :: session.devices.next :: stack) with
          host := dropDisplaced NativeLayer.dropDevice session.devices host
          devices := (session.devices.insert device).2 }
  | deviceClosed {handle stack device} :
      session.machine.stack = handle :: stack →
      session.devices.get? handle = some device →
      WordEnding session .closeDevice (.ok ())
        { session.withStack stack with
          host := Access.closeDevice device session.host
          devices := session.devices.erase handle }
  | requested {operands stack device buffer answer data host} :
      ControlOperands.take session.machine.stack = .ok operands stack →
      session.devices.get? operands.handle = some device →
      session.machine.window? operands.address operands.setup.length.toNat = some buffer →
      Access.request device operands.setup buffer session.host = ((answer, data), host) →
      WordEnding session .request (ended answer)
        { session with
          host, machine := ⟨stack, (session.machine.store operands.address data).memory⟩ }

namespace Session

variable {σ : Type} [NativeLayer σ] {session after : Session σ} {result : Except WordFault Unit}

theorem withOperands_ending {α : Type} {take : Take α} {next : α → Session σ → Outcome σ}
    {word : Word} (handleOf : α → Option Cell) (takes : word.takeHandle = handleOf <$> take)
    (ran : withOperands take session next = (result, after))
    (rest : ∀ operands stack, take session.machine.stack = .ok operands stack →
      word.takeHandle session.machine.stack = .ok (handleOf operands) stack →
      next operands (session.withStack stack) = (result, after) →
      WordEnding session word result after) : WordEnding session word result after := by
  unfold withOperands at ran
  split at ran
  · rename_i fault stack faulty
    cases ran
    refine .refused ?_
    simp only [takes, Functor.map, EStateM.map, faulty]
  · rename_i operands stack taken
    refine rest operands stack taken ?_ ran
    rw [takes]
    exact Take.map_ok handleOf taken

theorem withInterface_ending {word : Word} {handle : Cell} {stack : List Cell}
    {next : NativeLayer.Interface σ → Outcome σ} (uses : word.kind? = some .interface)
    (taken : word.takeHandle session.machine.stack = .ok (some handle) stack)
    (ran : withInterface handle (session.withStack stack) next = (result, after))
    (rest : ∀ interface, session.interfaces.get? handle = some interface →
      next interface = (result, after) → WordEnding session word result after) :
    WordEnding session word result after := by
  unfold withInterface at ran
  split at ran
  · rename_i absent
    cases ran
    refine .unknown taken uses ?_
    change session.interfaces.get? handle = none at absent
    simp only [object?, absent, Option.map_none]
  · rename_i interface live
    exact rest interface live ran

theorem withDevice_ending {word : Word} {handle : Cell} {stack : List Cell}
    {next : NativeLayer.Device σ → Outcome σ} (uses : word.kind? = some .device)
    (taken : word.takeHandle session.machine.stack = .ok (some handle) stack)
    (ran : withDevice handle (session.withStack stack) next = (result, after))
    (rest : ∀ device, session.devices.get? handle = some device →
      next device = (result, after) → WordEnding session word result after) :
    WordEnding session word result after := by
  unfold withDevice at ran
  split at ran
  · rename_i absent
    cases ran
    refine .unknown taken uses ?_
    change session.devices.get? handle = none at absent
    simp only [object?, absent, Option.map_none]
  · rename_i device live
    exact rest device live ran

theorem withWindow_ending {word : Word} {kind : HandleKind} {handle address : Cell} {length : Nat}
    {stack : List Cell} {entry : NativeLayer.Interface σ ⊕ NativeLayer.Device σ}
    {next : Bytes → Outcome σ} (uses : word.kind? = some kind)
    (taken : word.takeHandle session.machine.stack = .ok (some handle) stack)
    (live : session.object? kind handle = some entry)
    (asked : word.takeWindow session.machine.stack = .ok (some (address, length)) stack)
    (ran : withWindow address length (session.withStack stack) next = (result, after))
    (rest : ∀ buffer, session.machine.window? address length = some buffer →
      next buffer = (result, after) → WordEnding session word result after) :
    WordEnding session word result after := by
  unfold withWindow at ran
  split at ran
  · rename_i outside
    cases ran
    exact .outside taken uses live asked outside
  · rename_i buffer granted
    exact rest buffer granted ran

theorem object?_interface {handle : Cell} {interface : NativeLayer.Interface σ}
    (live : session.interfaces.get? handle = some interface) :
    session.object? .interface handle = some (.inl interface) := by
  simp only [object?, live, Option.map_some]

theorem object?_device {handle : Cell} {device : NativeLayer.Device σ}
    (live : session.devices.get? handle = some device) :
    session.object? .device handle = some (.inr device) := by
  simp only [object?, live, Option.map_some]

theorem stack_of_cell {cells stack : List Cell} {handle : Cell}
    (taken : Take.cell cells = .ok handle stack) : cells = handle :: stack := by
  cases cells with
  | nil => cases taken
  | cons top below => cases taken; rfl

theorem findInterface_ending (ran : session.findInterface = (result, after)) :
    WordEnding session .findInterface result after := by
  refine withOperands_ending _ rfl ran ?_
  intro operands stack taken _ ran
  dsimp only at ran
  split at ran
  · rename_i failure host called
    cases ran
    exact .interfaceFailed taken called
  · rename_i host called
    cases ran
    exact .interfaceAbsent taken called
  · rename_i interface host called
    cases ran
    exact .interfaceFound taken called

theorem findDevice_ending (ran : session.findDevice = (result, after)) :
    WordEnding session .findDevice result after := by
  refine withOperands_ending _ rfl ran ?_
  intro operands stack taken _ ran
  dsimp only at ran
  split at ran
  · rename_i failure host called
    cases ran
    exact .deviceFailed taken called
  · rename_i host called
    cases ran
    exact .deviceAbsent taken called
  · rename_i device host called
    cases ran
    exact .deviceFound taken called

theorem closeInterface_ending (ran : session.closeInterface = (result, after)) :
    WordEnding session .closeInterface result after := by
  refine withOperands_ending _ rfl ran ?_
  intro handle stack taken takenHandle ran
  refine withInterface_ending rfl takenHandle ran ?_
  intro interface live ran
  dsimp only at ran
  split at ran
  · rename_i failure host called
    -- The entry was out while the close was tried, and is back now.
    have back : ((session.withStack stack).interfaces.erase handle).put handle interface =
        (session.withStack stack).interfaces := HandleTable.put_erase live
    rw [back] at ran
    cases ran
    exact .interfaceKept (stack_of_cell taken) live called
  · rename_i host called
    cases ran
    exact .interfaceClosed (stack_of_cell taken) live called

theorem closeDevice_ending (ran : session.closeDevice = (result, after)) :
    WordEnding session .closeDevice result after := by
  refine withOperands_ending _ rfl ran ?_
  intro handle stack taken takenHandle ran
  refine withDevice_ending rfl takenHandle ran ?_
  intro device live ran
  cases ran
  exact .deviceClosed (stack_of_cell taken) live

theorem control_ending (ran : session.control = (result, after)) :
    WordEnding session .control result after := by
  refine withOperands_ending _ rfl ran ?_
  intro operands stack taken takenHandle ran
  refine withInterface_ending rfl takenHandle ran ?_
  intro interface live ran
  refine withWindow_ending rfl takenHandle (object?_interface live) (Take.map_ok _ taken) ran ?_
  intro buffer granted ran
  rcases called : Access.control interface operands.setup buffer session.host with
    ⟨⟨answer, data⟩, host⟩
  simp only [withStack, called] at ran
  cases answer with
  | error failure =>
      cases ran
      exact .controlled taken live granted called
  | ok value =>
      cases ran
      exact .controlled taken live granted called

theorem request_ending (ran : session.request = (result, after)) :
    WordEnding session .request result after := by
  refine withOperands_ending _ rfl ran ?_
  intro operands stack taken takenHandle ran
  refine withDevice_ending rfl takenHandle ran ?_
  intro device live ran
  refine withWindow_ending rfl takenHandle (object?_device live) (Take.map_ok _ taken) ran ?_
  intro buffer granted ran
  rcases called : Access.request device operands.setup buffer session.host with
    ⟨⟨answer, data⟩, host⟩
  simp only [withStack, called] at ran
  cases answer with
  | error failure =>
      cases ran
      exact .requested taken live granted called
  | ok value =>
      cases ran
      exact .requested taken live granted called

theorem pipeProperties_ending (ran : session.pipeProperties = (result, after)) :
    WordEnding session .pipeProperties result after := by
  refine withOperands_ending _ rfl ran ?_
  intro operands stack taken takenHandle ran
  refine withInterface_ending rfl takenHandle ran ?_
  intro interface live ran
  split at ran
  · rename_i failure host called
    cases ran
    exact .described taken live called
  · rename_i pipe host called
    cases ran
    exact .described taken live called

theorem read_ending (ran : session.read = (result, after)) :
    WordEnding session .read result after := by
  refine withOperands_ending _ rfl ran ?_
  intro operands stack taken takenHandle ran
  refine withInterface_ending rfl takenHandle ran ?_
  intro interface live ran
  refine withWindow_ending rfl takenHandle (object?_interface live) (Take.map_ok _ taken) ran ?_
  intro buffer granted ran
  rcases called : Access.read interface operands.pipe buffer session.host with
    ⟨⟨answer, data⟩, host⟩
  simp only [withStack, called] at ran
  cases answer with
  | error failure =>
      cases ran
      exact .readFrom taken live granted called
  | ok value =>
      cases ran
      exact .readFrom taken live granted called

theorem write_ending (ran : session.write = (result, after)) :
    WordEnding session .write result after := by
  refine withOperands_ending _ rfl ran ?_
  intro operands stack taken takenHandle ran
  refine withInterface_ending rfl takenHandle ran ?_
  intro interface live ran
  refine withWindow_ending rfl takenHandle (object?_interface live) (Take.map_ok _ taken) ran ?_
  intro data granted ran
  split at ran
  · rename_i failure host called
    cases ran
    exact .writtenTo taken live granted called
  · rename_i host called
    cases ran
    exact .writtenTo taken live granted called

theorem run_ending {word : Word} (ran : session.run word = (result, after)) :
    WordEnding session word result after := by
  cases word with
  | findInterface => exact findInterface_ending ran
  | closeInterface => exact closeInterface_ending ran
  | control => exact control_ending ran
  | pipeProperties => exact pipeProperties_ending ran
  | read => exact read_ending ran
  | write => exact write_ending ran
  | findDevice => exact findDevice_ending ran
  | closeDevice => exact closeDevice_ending ran
  | request => exact request_ending ran

theorem run_ended (word : Word) (session : Session σ) :
    WordEnding session word (session.run word).1 (session.run word).2 := run_ending rfl

theorem isUsb_of_ended {α : Type} {fault : WordFault} {answer : Except Failure α}
    (failed : .error fault = ended answer) : fault.isUsb = true := by
  cases answer with
  | error failure =>
      cases failed
      rfl
  | ok value => cases failed

theorem eq_of_ended {α : Type} {answer : Except Failure α} {failure : Failure}
    (failed : .error (.usb failure) = ended answer) : answer = .error failure := by
  cases answer with
  | error earlier =>
      cases failed
      rfl
  | ok value => cases failed

theorem ended_ne_unknown {α : Type} (answer : Except Failure α) (handle : Cell) :
    ended answer ≠ .error (.unknownHandle handle) := by
  intro failed
  have faulty := isUsb_of_ended failed.symm
  cases faulty

theorem of_refusal {word : Word} {fault : WordFault}
    (ending : WordEnding session word (.error fault) after) (plain : fault.isUsb = false) :
    ∃ stack, after = session.withStack stack := by
  generalize failed : (.error fault : Except WordFault Unit) = result at ending
  cases ending with
  | refused faulty => exact ⟨_, rfl⟩
  | unknown taken uses absent => exact ⟨_, rfl⟩
  | outside taken uses live asked ungranted => exact ⟨_, rfl⟩
  | interfaceFailed | interfaceKept | deviceFailed =>
      cases failed
      cases plain
  | interfaceAbsent | interfaceFound | interfaceClosed | deviceAbsent | deviceFound
  | deviceClosed => cases failed
  | controlled | described | readFrom | writtenTo | requested =>
      have faulty := isUsb_of_ended failed
      simp only [plain, Bool.false_eq_true] at faulty

end Session

end UsbHost
