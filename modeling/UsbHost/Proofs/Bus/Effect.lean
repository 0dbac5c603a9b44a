import UsbHost.Bus.Layer
import UsbHost.Proofs.Words.History

/-!
What each operation does to the handles, the claims and the log of a bus. A lookup opens one handle
at most; where it fails after that, the handle is closed again before it answers.
-/

namespace UsbHost

inductive BusChange where
  | setCode (device : Nat) (point : FaultPoint) (code : Int)
  | setListCode (code : Int)
  | addScript (device : Nat) (script : Script)
deriving DecidableEq

namespace BusCall

def opening? : BusCall → Option Nat
  | openDevice device => some device
  | _ => none

def closing? : BusCall → Option Nat
  | closeDevice device => some device
  | _ => none

def traffic? : BusCall → Option Nat
  | control device _ _ _ _ | transfer _ device _ _ _ _ => some device
  | _ => none

theorem opening?_of_traffic? {call : BusCall} {device : Nat}
    (goes : call.traffic? = some device) : call.opening? = none ∧ call.closing? = none := by
  cases call with
  | control | transfer => exact ⟨rfl, rfl⟩
  | openDevice | closeDevice | autoDetach | claim | release => cases goes

end BusCall

namespace Bus

instance : ChangingHost Bus where
  Change := BusChange
  change
    | .setCode device point code => modifyDevice device (BusDevice.setCode point code)
    | .setListCode code => fun bus => { bus with listCode := code }
    | .addScript device script => modifyDevice device (BusDevice.addScript script)

def recordAll (calls : List BusCall) (bus : Bus) : Bus :=
  { bus with calls := bus.calls ++ calls }

@[simp] theorem recordAll_nil (bus : Bus) : bus.recordAll [] = bus := by
  simp [recordAll]

@[simp] theorem recordAll_recordAll (first second : List BusCall) (bus : Bus) :
    (bus.recordAll first).recordAll second = bus.recordAll (first ++ second) := by
  simp [recordAll]

def nextOn (device : Nat) (bus : Bus) : BusHandle := ⟨bus.nextHandle, device⟩

def claimOf (handle : BusHandle) : Claim := ⟨handle.device, 0, handle.number⟩

def opened (device : Nat) (bus : Bus) : Bus :=
  { bus.recordAll [.openDevice device] with
    handles := bus.handles ++ [bus.nextOn device]
    nextHandle := bus.nextHandle + 1 }

def claimedNew (device : Nat) (bus : Bus) : Bus :=
  { bus.recordAll [.openDevice device, .autoDetach device, .claim device 0] with
    handles := bus.handles ++ [bus.nextOn device]
    claims := bus.claims ++ [claimOf (bus.nextOn device)]
    nextHandle := bus.nextHandle + 1 }

theorem opened_claimed (device : Nat) (bus : Bus) :
    { (bus.opened device).recordAll [.autoDetach device, .claim device 0] with
      claims := bus.claims ++ [claimOf (bus.nextOn device)] } = bus.claimedNew device := by
  simp [opened, claimedNew, recordAll]

structure IsFresh (bus : Bus) : Prop where
  handles : ∀ handle ∈ bus.handles, handle.number < bus.nextHandle
  claims : ∀ claim ∈ bus.claims, claim.handle < bus.nextHandle

theorem IsFresh.filter_handles {bus : Bus} (fresh : bus.IsFresh) :
    bus.handles.filter (fun other => other.number != bus.nextHandle) = bus.handles := by
  refine List.filter_eq_self.mpr ?_
  intro handle member
  have older := fresh.handles handle member
  simp only [bne_iff_ne, ne_eq]
  omega

theorem IsFresh.filter_claims {bus : Bus} (fresh : bus.IsFresh) :
    bus.claims.filter (fun claim => claim.handle != bus.nextHandle) = bus.claims := by
  refine List.filter_eq_self.mpr ?_
  intro claim member
  have older := fresh.claims claim member
  simp only [bne_iff_ne, ne_eq]
  omega

theorem check_eq_ok {code : Int} : BusFault.check code = .ok () ↔ code = 0 := by
  unfold BusFault.check
  by_cases zero : code = 0
  · simp [zero]
  · simp [zero]

theorem ne_zero_of_check {code : Int} {fault : BusFault}
    (fails : BusFault.check code = .error fault) : code ≠ 0 := by
  intro zero
  rw [check_eq_ok.mpr zero] at fails
  cases fails

theorem closeDevice_opened {bus : Bus} (fresh : bus.IsFresh) (device : Nat) (tried : List BusCall) :
    ((bus.opened device).recordAll tried).closeDevice (bus.nextOn device) =
      { bus.recordAll (.openDevice device :: (tried ++ [.closeDevice device])) with
        nextHandle := bus.nextHandle + 1 } := by
  simp [closeDevice, opened, recordAll, record, nextOn, fresh.filter_handles, fresh.filter_claims]

/-- How an interface is found and claimed: nothing stays open unless it is. -/
inductive InterfaceSearch (bus : Bus) : Except Failure (Option BusInterface) → Bus → Prop
  | unlisted {fault} : InterfaceSearch bus (.error (.native .serviceMatching fault)) bus
  | absent : InterfaceSearch bus (.ok none) bus
  | unopened {device fault} (fails : bus.codeAt device .openDevice ≠ 0) :
      InterfaceSearch bus (.error (.native .createPlugin fault))
        (bus.recordAll [.openDevice device])
  | undone {device step fault tried} (opens : bus.codeAt device .openDevice = 0)
      (few : tried <+: [.autoDetach device, .claim device 0]) :
      InterfaceSearch bus (.error (.native step fault))
        { bus.recordAll (.openDevice device :: (tried ++ [.closeDevice device])) with
          nextHandle := bus.nextHandle + 1 }
  | found {device pipes} (opens : bus.codeAt device .openDevice = 0)
      (free : bus.holder? device 0 = none) :
      InterfaceSearch bus (.ok (some ⟨bus.nextOn device, 0, pipes, true⟩)) (bus.claimedNew device)

theorem openDevice_eq (device : Nat) (bus : Bus) :
    bus.openDevice device =
      match BusFault.check (bus.codeAt device .openDevice) with
      | .error fault => (.error fault, bus.recordAll [.openDevice device])
      | .ok () => (.ok (bus.nextOn device), bus.opened device) := rfl

theorem createPlugin_eq (service : BusService) (serviceClass : ServiceClass) (bus : Bus) :
    createPlugin service serviceClass bus =
      match BusFault.check (bus.codeAt service.device .openDevice) with
      | .error fault => (.error fault.toNative, bus.recordAll [.openDevice service.device])
      | .ok () =>
        (.ok ⟨service.device, service.criteria, serviceClass, some (bus.nextOn service.device)⟩,
          bus.opened service.device) := by
  unfold createPlugin
  rw [openDevice_eq]
  cases BusFault.check (bus.codeAt service.device .openDevice) with
  | error fault => rfl
  | ok done => rfl

theorem matchService_cases (criteria : Criteria) (bus : Bus) :
    (∃ fault, matchService criteria bus = (.error fault, bus)) ∨
      matchService criteria bus = (.ok none, bus) ∨
      ∃ device, matchService criteria bus = (.ok (some ⟨device, criteria⟩), bus) := by
  unfold matchService
  cases native bus.attached with
  | error fault => exact Or.inl ⟨fault, rfl⟩
  | ok devices =>
      simp only
      cases devices.findIdx? (BusDevice.isMatch criteria) with
      | none => exact Or.inr (Or.inl rfl)
      | some device => exact Or.inr (Or.inr ⟨device, rfl⟩)

theorem holder_lt {bus : Bus} (fresh : bus.IsFresh) {device holder : Nat} {interface : UInt8}
    (held : bus.holder? device interface = some holder) : holder < bus.nextHandle := by
  obtain ⟨claim, claimed, rfl⟩ := Option.map_eq_some_iff.mp held
  exact fresh.claims claim (List.mem_of_find?_eq_some claimed)

theorem claim_opened {bus : Bus} (fresh : bus.IsFresh) (device : Nat) (tried : List BusCall) :
    (∃ fault, ((bus.opened device).recordAll tried).claim (bus.nextOn device) 0 =
        (.error fault, (bus.opened device).recordAll (tried ++ [.claim device 0]))) ∨
      (bus.holder? device 0 = none ∧
        ((bus.opened device).recordAll tried).claim (bus.nextOn device) 0 =
          (.ok (), { (bus.opened device).recordAll (tried ++ [.claim device 0]) with
            claims := bus.claims ++ [claimOf (bus.nextOn device)] })) := by
  have logged : ((bus.opened device).recordAll tried).record (.claim device 0) =
      (bus.opened device).recordAll (tried ++ [.claim device 0]) := by
    simp [recordAll, record]
  have holder : ((bus.opened device).recordAll (tried ++ [.claim device 0])).holder? device 0 =
      bus.holder? device 0 := rfl
  unfold claim
  simp only [nextOn, logged, holder]
  split
  · exact Or.inl ⟨_, rfl⟩
  · split
    · exact Or.inl ⟨_, rfl⟩
    · cases held : bus.holder? device 0 with
      | none => exact Or.inr ⟨rfl, rfl⟩
      | some number =>
          have older := holder_lt fresh held
          have apart : number ≠ bus.nextHandle := by omega
          refine Or.inl ⟨.busy, ?_⟩
          simp [apart]

theorem openInterface_opened {bus : Bus} (fresh : bus.IsFresh) (device : Nat) (pipes : PipeTable) :
    (∃ fault tried, tried <+: [.autoDetach device, .claim device 0] ∧
        openInterface ⟨bus.nextOn device, 0, pipes, false⟩ (bus.opened device) =
          (.error fault, (bus.opened device).recordAll tried)) ∨
      (bus.holder? device 0 = none ∧
        openInterface ⟨bus.nextOn device, 0, pipes, false⟩ (bus.opened device) =
          (.ok ⟨bus.nextOn device, 0, pipes, true⟩,
            { (bus.opened device).recordAll [.autoDetach device, .claim device 0] with
              claims := bus.claims ++ [claimOf (bus.nextOn device)] })) := by
  have detached : (bus.opened device).autoDetach (bus.nextOn device) =
      (BusFault.check (bus.codeAt device .autoDetach),
        (bus.opened device).recordAll [.autoDetach device]) := rfl
  unfold openInterface
  simp only [detached]
  split
  · rcases claim_opened fresh device [.autoDetach device] with ⟨fault, claimed⟩ | ⟨free, claimed⟩
    · exact Or.inl ⟨_, _, List.prefix_refl _, by simp only [claimed]; rfl⟩
    · exact Or.inr ⟨free, by simp only [claimed]; rfl⟩
  · rcases claim_opened fresh device [.autoDetach device] with ⟨fault, claimed⟩ | ⟨free, claimed⟩
    · exact Or.inl ⟨_, _, List.prefix_refl _, by simp only [claimed]; rfl⟩
    · exact Or.inr ⟨free, by simp only [claimed]; rfl⟩
  · exact Or.inl ⟨_, [.autoDetach device], List.prefix_append _ [BusCall.claim device 0], rfl⟩

theorem readInterface_ok {device : Nat} {number : UInt8} {handle : BusHandle} {bus : Bus}
    {interface : BusInterface} (read : bus.readInterface device number handle = .ok interface) :
    ∃ pipes, interface = ⟨handle, number, pipes, false⟩ := by
  unfold readInterface at read
  split at read
  · cases read
  · cases read
  · cases read
  · split at read
    · cases read
    · cases read
      exact ⟨_, rfl⟩

theorem releaseInterface_unclaimed (handle : BusHandle) (number : UInt8) (pipes : PipeTable)
    (bus : Bus) :
    releaseInterface ⟨handle, number, pipes, false⟩ bus = bus.closeDevice handle := rfl

theorem queryInterface_cases (device : Nat) (vendorId productId : UInt16) (handle : BusHandle)
    (bus : Bus) :
    (∃ fault, queryInterface
        ⟨device, .interface vendorId productId, .interface, some handle⟩ bus =
          ((.error fault, ⟨device, .interface vendorId productId, .interface, none⟩),
            bus.closeDevice handle)) ∨
      ∃ pipes, queryInterface
        ⟨device, .interface vendorId productId, .interface, some handle⟩ bus =
          ((.ok ⟨handle, 0, pipes, false⟩,
            ⟨device, .interface vendorId productId, .interface, none⟩), bus) := by
  have taken : takeHandle .interface
      ⟨device, .interface vendorId productId, .interface, some handle⟩ =
        (.ok handle, ⟨device, .interface vendorId productId, .interface, none⟩) := rfl
  have zero : (Criteria.interface vendorId productId).interfaceNumber.getD 0 = 0 := rfl
  unfold queryInterface
  simp only [taken, zero]
  cases read : bus.readInterface device 0 handle with
  | error fault => exact Or.inl ⟨fault, rfl⟩
  | ok interface =>
      obtain ⟨pipes, rfl⟩ := readInterface_ok read
      exact Or.inr ⟨pipes, rfl⟩

theorem findInterface_search {vendorId productId : UInt16} {bus host : Bus}
    {answer : Except Failure (Option BusInterface)} (fresh : bus.IsFresh)
    (called : Access.findInterface vendorId productId bus = (answer, host)) :
    InterfaceSearch bus answer host := by
  unfold Access.findInterface Access.resolve at called
  simp only [NativeLayer.matchService, NativeLayer.createPlugin, NativeLayer.queryInterface,
    NativeLayer.releasePlugin, NativeLayer.openInterface, NativeLayer.releaseInterface] at called
  rcases matchService_cases (.interface vendorId productId) bus with
    ⟨fault, matched⟩ | matched | ⟨device, matched⟩
  · simp only [matched] at called
    cases called
    exact .unlisted
  · simp only [matched] at called
    cases called
    exact .absent
  · simp only [matched, createPlugin_eq] at called
    cases opens : BusFault.check (bus.codeAt device .openDevice) with
    | error fault =>
        simp only [opens] at called
        cases called
        exact .unopened (ne_zero_of_check opens)
    | ok done =>
        have clear := check_eq_ok.mp opens
        have isInterface : (Criteria.interface vendorId productId).serviceClass = .interface := rfl
        simp only [opens, isInterface] at called
        rcases queryInterface_cases device vendorId productId (bus.nextOn device)
          (bus.opened device) with ⟨fault, queried⟩ | ⟨pipes, queried⟩
        · simp only [queried, releasePlugin] at called
          cases called
          have undone := closeDevice_opened fresh device []
          simp only [recordAll_nil] at undone
          rw [undone]
          exact .undone clear List.nil_prefix
        · simp only [queried, releasePlugin] at called
          rcases openInterface_opened fresh device pipes with
            ⟨fault, tried, few, claimed⟩ | ⟨free, claimed⟩
          · simp only [claimed, releaseInterface_unclaimed, closeDevice_opened fresh] at called
            cases called
            exact .undone clear few
          · simp only [claimed] at called
            cases called
            rw [opened_claimed]
            exact .found clear free

inductive DeviceSearch (bus : Bus) : Except Failure (Option BusHandle) → Bus → Prop
  | unlisted {fault} : DeviceSearch bus (.error (.native .serviceMatching fault)) bus
  | absent : DeviceSearch bus (.ok none) bus
  | unopened {device fault} (fails : bus.codeAt device .openDevice ≠ 0) :
      DeviceSearch bus (.error (.native .createPlugin fault)) (bus.recordAll [.openDevice device])
  | found {device} (opens : bus.codeAt device .openDevice = 0) :
      DeviceSearch bus (.ok (some (bus.nextOn device))) (bus.opened device)

theorem findDevice_search {vendorId productId : UInt16} {bus host : Bus}
    {answer : Except Failure (Option BusHandle)}
    (called : Access.findDevice (σ := Bus) vendorId productId bus = (answer, host)) :
    DeviceSearch bus answer host := by
  unfold Access.findDevice Access.resolve at called
  simp only [NativeLayer.matchService, NativeLayer.createPlugin, NativeLayer.queryDevice,
    NativeLayer.releasePlugin] at called
  rcases matchService_cases (.device vendorId productId) bus with
    ⟨fault, matched⟩ | matched | ⟨device, matched⟩
  · simp only [matched] at called
    cases called
    exact .unlisted
  · simp only [matched] at called
    cases called
    exact .absent
  · simp only [matched, createPlugin_eq] at called
    cases opens : BusFault.check (bus.codeAt device .openDevice) with
    | error fault =>
        simp only [opens] at called
        cases called
        exact .unopened (ne_zero_of_check opens)
    | ok done =>
        simp only [opens] at called
        cases called
        exact .found (check_eq_ok.mp opens)

def without (handle : BusHandle) (bus : Bus) : Bus :=
  { bus with
    handles := bus.handles.filter fun other => other.number != handle.number
    claims := bus.claims.filter fun claim => claim.handle != handle.number }

theorem closeDevice_eq (handle : BusHandle) (bus : Bus) :
    bus.closeDevice handle = (bus.recordAll [.closeDevice handle.device]).without handle := rfl

theorem without_released (handle : BusHandle) (interface : UInt8) (bus : Bus) :
    without handle { bus with
      claims := bus.claims.filter (· != Claim.mk handle.device interface handle.number) } =
        bus.without handle := by
  simp only [without, List.filter_filter]
  congr 1
  refine List.filter_congr ?_
  intro claim member
  by_cases same : claim.handle = handle.number
  · simp [same]
  · have apart : claim ≠ ⟨handle.device, interface, handle.number⟩ := by
      intro equal
      exact same (congrArg Claim.handle equal)
    simp [same, apart]

theorem release_cases (handle : BusHandle) (interface : UInt8) (bus : Bus) :
    (∃ fault, bus.release handle interface =
        (.error fault, bus.recordAll [.release handle.device interface])) ∨
      bus.release handle interface =
        (.ok (), { bus.recordAll [.release handle.device interface] with
          claims := bus.claims.filter (· != Claim.mk handle.device interface handle.number) }) := by
  unfold release
  simp only
  split
  · exact Or.inl ⟨_, rfl⟩
  · split
    · exact Or.inr rfl
    · exact Or.inl ⟨_, rfl⟩

theorem closeDevice_release (handle : BusHandle) (interface : UInt8) (bus : Bus) :
    (bus.release handle interface).2.closeDevice handle =
      (bus.recordAll [.release handle.device interface, .closeDevice handle.device]).without
        handle := by
  rcases release_cases handle interface bus with ⟨fault, released⟩ | released
  · rw [released, closeDevice_eq, recordAll_recordAll]
    rfl
  · have gone := without_released handle interface
      (bus.recordAll [.release handle.device interface, .closeDevice handle.device])
    rw [released, closeDevice_eq, ← gone]
    simp [recordAll]

theorem releaseInterface_cases (interface : BusInterface) (bus : Bus) :
    ∃ calls, calls.filterMap BusCall.opening? = [] ∧
      calls.filterMap BusCall.closing? = [interface.handle.device] ∧
      releaseInterface interface bus = (bus.recordAll calls).without interface.handle := by
  unfold releaseInterface
  cases interface.isClaimed with
  | false => exact ⟨[.closeDevice interface.handle.device], rfl, rfl, rfl⟩
  | true =>
      exact ⟨_, rfl, rfl, closeDevice_release interface.handle interface.number bus⟩

inductive InterfaceClose (bus : Bus) (interface : BusInterface) : Except Failure Unit → Bus → Prop
  | kept {fault calls} (few : calls <+: [.release interface.handle.device interface.number]) :
      InterfaceClose bus interface (.error (.native .interfaceClose fault)) (bus.recordAll calls)
  | closed :
      InterfaceClose bus interface (.ok ())
        ((bus.recordAll [.release interface.handle.device interface.number,
          .closeDevice interface.handle.device]).without interface.handle)

theorem closeInterface_close {interface : BusInterface} {bus host : Bus}
    {answer : Except Failure Unit}
    (called : Access.closeInterface (σ := Bus) interface bus = (answer, host)) :
    InterfaceClose bus interface answer host := by
  unfold Access.closeInterface at called
  simp only [NativeLayer.closeInterface, NativeLayer.releaseInterface, closeInterface] at called
  by_cases claimed : interface.isClaimed
  · have closed := closeDevice_release interface.handle interface.number bus
    rw [if_pos claimed] at called
    rcases release_cases interface.handle interface.number bus with ⟨fault, released⟩ | released
    · simp only [released] at called
      cases called
      exact .kept (List.prefix_refl _)
    · simp only [released, releaseInterface_unclaimed] at called closed
      cases called
      rw [closed]
      exact .closed
  · rw [if_neg claimed] at called
    cases called
    have untouched : InterfaceClose bus interface
        (.error (.native .interfaceClose .invalidParameter)) _ := .kept List.nil_prefix
    rwa [recordAll_nil] at untouched

inductive Use (bus : Bus) : Bus → Prop
  | untouched : Use bus bus
  | called {call devices} (opensNone : call.opening? = none) (closesNone : call.closing? = none) :
      Use bus { bus.recordAll [call] with devices }

inductive Traffic (device : Nat) (bus : Bus) : Bus → Prop
  | untouched : Traffic device bus bus
  | called {call devices} (goes : call.traffic? = some device) :
      Traffic device bus { bus.recordAll [call] with devices }

theorem Traffic.use {device : Nat} {bus host : Bus} (traffic : Traffic device bus host) :
    Use bus host := by
  cases traffic with
  | untouched => exact .untouched
  | called goes =>
      obtain ⟨opensNone, closesNone⟩ := BusCall.opening?_of_traffic? goes
      exact .called opensNone closesNone

theorem takeScript_devices (device : Nat) (endpoint : Option UInt8) (bus : Bus) :
    ∃ devices, (bus.takeScript device endpoint).2 = { bus with devices } := by
  unfold takeScript
  cases bus.devices[device]? with
  | none => exact ⟨bus.devices, rfl⟩
  | some found => exact ⟨_, rfl⟩

theorem control_traffic (handle : BusHandle) (setup : Setup) (timeout : Nat) (data : Bytes)
    (bus : Bus) : Traffic handle.device bus (bus.control handle setup timeout data).2 := by
  unfold control
  simp only
  obtain ⟨devices, taken⟩ := takeScript_devices handle.device none
    (bus.record (.control handle.device setup (lengthField data.length) (timeoutField timeout)
      (if setup.isInput then [] else data.take (lengthField data.length))))
  rw [taken]
  exact .called rfl

theorem transfer_traffic (mode : TransferMode) (handle : BusHandle) (endpoint : UInt8)
    (timeout : Nat) (data : Bytes) (bus : Bus) :
    Traffic handle.device bus (bus.transfer mode handle endpoint timeout data).2 := by
  unfold transfer
  simp only
  generalize (if endpoint &&& 0x80 != 0 then [] else data.take _) = sent
  obtain ⟨devices, taken⟩ := takeScript_devices handle.device (some endpoint)
    (bus.record (.transfer mode handle.device endpoint (sizeField data.length)
      (timeoutField timeout) sent))
  split
  · exact @Traffic.called handle.device bus
      (.transfer mode handle.device endpoint (sizeField data.length) _ sent) bus.devices rfl
  · rw [taken]
    exact .called rfl

theorem controlRequest_traffic (interface : BusInterface) (setup : Setup) (buffer : Bytes)
    (bus : Bus) :
    Traffic interface.handle.device bus
      (Access.control (σ := Bus) interface setup buffer bus).2 := by
  unfold Access.control Access.onDataStage
  by_cases short : buffer.length < setup.length.toNat
  · rw [if_pos short]
    exact .untouched
  · rw [if_neg short]
    exact control_traffic interface.handle setup Timeouts.control.completion
      (buffer.take setup.length.toNat) bus

theorem request_traffic (device : BusHandle) (setup : Setup) (buffer : Bytes) (bus : Bus) :
    Traffic device.device bus (Access.request (σ := Bus) device setup buffer bus).2 := by
  unfold Access.request Access.onDataStage
  by_cases short : buffer.length < setup.length.toNat
  · rw [if_pos short]
    exact .untouched
  · rw [if_neg short]
    exact control_traffic device setup Timeouts.unlimited (buffer.take setup.length.toNat) bus

theorem read_traffic (interface : BusInterface) (pipe : UInt8) (buffer : Bytes) (bus : Bus) :
    Traffic interface.handle.device bus (Access.read (σ := Bus) interface pipe buffer bus).2 := by
  unfold Access.read
  simp only [NativeLayer.readPipe, readPipe]
  cases route interface pipe .input with
  | error fault => exact .untouched
  | ok way => exact transfer_traffic way.1 interface.handle way.2 _ buffer bus

theorem write_traffic (interface : BusInterface) (pipe : UInt8) (data : Bytes) (bus : Bus) :
    Traffic interface.handle.device bus (Access.write (σ := Bus) interface pipe data bus).2 := by
  unfold Access.write
  simp only [NativeLayer.writePipe, writePipe]
  cases route interface pipe .output with
  | error fault => exact .untouched
  | ok way =>
      obtain ⟨mode, endpoint⟩ := way
      have traffic :=
        transfer_traffic mode interface.handle endpoint Timeouts.pipe.completion data bus
      rcases moved : bus.transfer mode interface.handle endpoint Timeouts.pipe.completion data with
        ⟨⟨reply, left⟩, after⟩
      rw [moved] at traffic
      cases reply with
      | error fault =>
          simp only [moved]
          exact traffic
      | ok count =>
          simp only [moved]
          exact traffic

theorem controlRequest_use {interface : BusInterface} {setup : Setup} {buffer data : Bytes}
    {bus host : Bus} {answer : Except Failure Nat}
    (called : Access.control (σ := Bus) interface setup buffer bus = ((answer, data), host)) :
    Use bus host := by
  have traffic := controlRequest_traffic interface setup buffer bus
  rw [called] at traffic
  exact traffic.use

theorem request_use {device : BusHandle} {setup : Setup} {buffer data : Bytes}
    {bus host : Bus} {answer : Except Failure Unit}
    (called : Access.request (σ := Bus) device setup buffer bus = ((answer, data), host)) :
    Use bus host := by
  have traffic := request_traffic device setup buffer bus
  rw [called] at traffic
  exact traffic.use

theorem read_use {interface : BusInterface} {pipe : UInt8} {buffer data : Bytes}
    {bus host : Bus} {answer : Except Failure Nat}
    (called : Access.read (σ := Bus) interface pipe buffer bus = ((answer, data), host)) :
    Use bus host := by
  have traffic := read_traffic interface pipe buffer bus
  rw [called] at traffic
  exact traffic.use

theorem write_use {interface : BusInterface} {pipe : UInt8} {data : Bytes}
    {bus host : Bus} {answer : Except Failure Unit}
    (called : Access.write (σ := Bus) interface pipe data bus = (answer, host)) :
    Use bus host := by
  have traffic := write_traffic interface pipe data bus
  rw [called] at traffic
  exact traffic.use

theorem pipeProperties_answer {interface : BusInterface} {number : UInt8} {bus host : Bus}
    {answer : Except Failure Pipe}
    (called : Access.pipeProperties (σ := Bus) interface number bus = (answer, host)) :
    host = bus ∧ ∀ pipe, answer = .ok pipe → interface.pipes.get? number = some pipe := by
  unfold Access.pipeProperties at called
  simp only [NativeLayer.pipeProperties, pipeProperties] at called
  cases described : interface.pipes.get? number with
  | none =>
      simp only [described] at called
      cases called
      exact ⟨rfl, by simp [Access.atStep]⟩
  | some found =>
      simp only [described] at called
      cases called
      refine ⟨rfl, ?_⟩
      intro pipe same
      cases same
      rfl

end Bus

end UsbHost
