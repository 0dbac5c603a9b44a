import UsbHost.Proofs.Bench.Effect
import UsbHost.Proofs.Bus.Transfer

/-!
A bench and a bus with the same devices. A bench is told the pipes as the descriptors have them,
where a bus cuts their numbers to three bits. Where the devices mirror each other and nothing fails,
lookups find the same device on both, closes succeed, pipes are told alike up to that cut, and a
transfer that is aimed at no pipe of its direction is refused by both.
-/

namespace UsbHost

theorem forall₂_getElem? {α β : Type} {related : α → β → Prop} {first : List α} {second : List β}
    (all : List.Forall₂ related first second) {index : Nat} {value : β}
    (there : second[index]? = some value) :
    ∃ other, first[index]? = some other ∧ related other value := by
  induction all generalizing index with
  | nil => cases there
  | @cons other value' rest rest' same all ih =>
      cases index with
      | zero =>
          cases there
          exact ⟨other, rfl, same⟩
      | succ index => exact ih there

theorem forall₂_findIdx? {α β : Type} {related : α → β → Prop} {first : List α} {second : List β}
    {matchesFirst : α → Bool} {matchesSecond : β → Bool} (all : List.Forall₂ related first second)
    (agrees : ∀ value other, other ∈ second → related value other →
      matchesFirst value = matchesSecond other) :
    first.findIdx? matchesFirst = second.findIdx? matchesSecond := by
  induction all with
  | nil => rfl
  | cons same all ih =>
      rw [List.findIdx?_cons, List.findIdx?_cons, agrees _ _ List.mem_cons_self same,
        ih fun value other member => agrees value other (List.mem_cons_of_mem _ member)]

def PipeTable.ask (table : PipeTable) (pipe : UInt8) : Except NativeFault Pipe :=
  match table.get? pipe with
  | some found => .ok found
  | none => .error .invalidParameter

namespace Pipe

def cutNumber (pipe : Pipe) : Pipe := { pipe with number := pipe.number &&& 0x07 }

theorem and_seven_eq_self {number : UInt8} : number &&& 0x07 = number ↔ number < 8 := by
  have low : (number &&& 0x07).toNat = number.toNat % 8 := by
    rw [UInt8.toNat_and]
    exact Nat.and_two_pow_sub_one_eq_mod number.toNat 3
  rw [← UInt8.toNat_inj, low, UInt8.lt_iff_toNat_lt]
  exact Nat.mod_eq_iff_lt (by decide)

theorem cutNumber_eq_self {pipe : Pipe} (small : pipe.number < 8) : pipe.cutNumber = pipe := by
  rw [cutNumber, and_seven_eq_self.mpr small]

theorem number_lt_of_cells_eq {pipe : Pipe} (same : pipe.cells = pipe.cutNumber.cells) :
    pipe.number < 8 := by
  have bounded (number : UInt8) : (Int64.ofNat number.toNat).toInt = number.toNat := by
    have below := number.toNat_lt
    exact Int64.toInt_ofNat_of_lt (by omega)
  simp only [cells, List.cons.injEq] at same
  have numbers := congrArg Int64.toInt same.2.1
  rw [bounded, bounded] at numbers
  exact and_seven_eq_self.mp (UInt8.toNat_inj.mp (Int.ofNat.inj numbers)).symm

end Pipe

def TransferKind.ofBits : Nat → TransferKind
  | 0 => .control
  | 1 => .isochronous
  | 2 => .bulk
  | _ => .interrupt

/-- The pipe that a descriptor tells of: the number is the low four bits of the address. -/
def EndpointDescriptor.described (endpoint : EndpointDescriptor) : Pipe where
  direction := .ofInput endpoint.isInput
  number := endpoint.address &&& 0x0f
  kind := .ofBits (endpoint.attributes.toNat % 4)
  maxPacketSize := endpoint.maxPacketSize
  interval := endpoint.interval

theorem EndpointDescriptor.toPipe_eq (endpoint : EndpointDescriptor) :
    endpoint.toPipe = endpoint.described.cutNumber := by
  have number : endpoint.address &&& 0x0f &&& 0x07 = endpoint.address &&& 0x07 := by
    rw [UInt8.and_assoc]
    rfl
  have attributes : (endpoint.attributes &&& 0x03).toNat = endpoint.attributes.toNat % 4 := by
    rw [UInt8.toNat_and]
    exact Nat.and_two_pow_sub_one_eq_mod endpoint.attributes.toNat 2
  have direction := endpoint.toPipe_direction
  simp only [toPipe] at direction
  simp only [toPipe, described, Pipe.cutNumber, direction, number, attributes]
  rfl

namespace BusDevice

def IsFaultless (device : BusDevice) : Prop := ∀ point, device.code point = 0

def describedPipes (device : BusDevice) : PipeTable where
  controlPacketSize := device.controlPacketSize.toUInt16
  endpoints := device.endpoints.map EndpointDescriptor.described

theorem get?_pipes (device : BusDevice) (pipe : UInt8) :
    device.pipes.get? pipe = (device.describedPipes.get? pipe).map Pipe.cutNumber := by
  unfold PipeTable.get?
  by_cases zero : pipe = 0
  · rw [if_pos zero, if_pos zero]
    simp [pipes, describedPipes, Pipe.control, Pipe.cutNumber]
  · rw [if_neg zero, if_neg zero, pipes_endpoints, describedPipes, List.getElem?_map,
      List.getElem?_map, Option.map_map]
    congr 1
    funext endpoint
    exact endpoint.toPipe_eq

end BusDevice

/-- The same device on a bench and on a bus: the pipes of the bench are those that the descriptors
tell of. Canned responses, queued bytes and scripts may differ. -/
structure Mirrors (bench : BenchDevice) (bus : BusDevice) : Prop where
  summary : bench.summary = bus.summary
  configuration : bench.configuration = bus.configuration
  interfaces : bench.interfaces = bus.interfaces.map InterfaceDescriptor.number
  pipes : bench.pipes = bus.describedPipes

theorem Mirrors.isMatch_eq {bench : BenchDevice} {bus : BusDevice} (mirrors : Mirrors bench bus)
    (faultless : bus.IsFaultless) (criteria : Criteria) :
    bench.isMatch criteria = bus.isMatch criteria := by
  have vendor : bench.summary.vendorId = bus.vendorId := by rw [mirrors.summary]; rfl
  have product : bench.summary.productId = bus.productId := by rw [mirrors.summary]; rfl
  have interfaces (number : UInt8) :
      bench.interfaces.contains number = bus.hasInterface number := by
    rw [mirrors.interfaces, BusDevice.hasInterface, List.contains_eq_any_beq, List.any_map]
    congr 1
    funext interface
    exact Bool.beq_comm
  cases service : criteria.serviceClass with
  | device =>
      simp only [BenchDevice.isMatch, BusDevice.isMatch, service, faultless _, beq_self_eq_true,
        Bool.true_and, vendor, product]
  | interface =>
      simp only [BenchDevice.isMatch, BusDevice.isMatch, service, faultless _, beq_self_eq_true,
        Bool.true_and, vendor, product, mirrors.configuration, interfaces]

theorem BusDevice.ask_pipes {device : BusDevice} {pipe : UInt8}
    (small : ∀ found, device.describedPipes.get? pipe = some found → found.number < 8) :
    device.pipes.ask pipe = device.describedPipes.ask pipe := by
  rw [PipeTable.ask, PipeTable.ask, device.get?_pipes]
  cases described : device.describedPipes.get? pipe with
  | none => rfl
  | some found => exact congrArg Except.ok (Pipe.cutNumber_eq_self (small found described))

namespace Bus

theorem route_undescribed {interface : BusInterface} {known : BusDevice} {pipe : UInt8}
    {direction : Direction} (same : interface.pipes = known.pipes)
    (misaimed : ∀ found, known.describedPipes.get? pipe = some found →
      found.direction ≠ direction) :
    route interface pipe direction = .error .invalidParameter := by
  refine route_misaimed ?_
  intro found there
  rw [same, known.get?_pipes, Option.map_eq_some_iff] at there
  obtain ⟨whole, described, rfl⟩ := there
  exact misaimed whole described

theorem pipeProperties_eq (interface : BusInterface) (pipe : UInt8) (bus : Bus) :
    Access.pipeProperties (σ := Bus) interface pipe bus =
      (Access.atStep .getPipeProperties (interface.pipes.ask pipe), bus) := by
  simp only [Access.pipeProperties, NativeLayer.pipeProperties, pipeProperties, PipeTable.ask]
  cases interface.pipes.get? pipe with
  | none => rfl
  | some found => rfl

end Bus

structure Alike (bench : Bench) (bus : Bus) : Prop where
  devices : List.Forall₂ Mirrors bench.devices bus.devices
  calm : bench.faults = []
  faultless : ∀ device ∈ bus.devices, device.IsFaultless
  listed : 0 ≤ bus.listCode

namespace Alike

variable {bench : Bench} {bus : Bus}

theorem of_bus (alike : Alike bench bus) {after : Bus} (devices : after.devices = bus.devices)
    (listCode : after.listCode = bus.listCode) : Alike bench after where
  devices := devices ▸ alike.devices
  calm := alike.calm
  faultless := devices ▸ alike.faultless
  listed := listCode ▸ alike.listed

theorem fault?_eq (alike : Alike bench bus) (step : NativeStep) : bench.fault? step = none := by
  rw [Bench.fault?, alike.calm]
  rfl

theorem codeAt_eq (alike : Alike bench bus) {device : Nat} {known : BusDevice}
    (there : bus.devices[device]? = some known) (point : FaultPoint) :
    bus.codeAt device point = 0 := by
  rw [Bus.codeAt, there]
  exact alike.faultless known (List.mem_of_getElem? there) point

theorem findIdx?_eq (alike : Alike bench bus) (criteria : Criteria) :
    (bench.devices.findIdx? fun device => device.isMatch criteria) =
      bus.devices.findIdx? (BusDevice.isMatch criteria) :=
  forall₂_findIdx? alike.devices fun _ device member mirrors =>
    mirrors.isMatch_eq (alike.faultless device member) criteria

theorem pipe?_eq (alike : Alike bench bus) {device : Nat} {known : BusDevice}
    (there : bus.devices[device]? = some known) (pipe : UInt8) :
    bench.pipe? device pipe = known.describedPipes.ask pipe := by
  obtain ⟨other, otherThere, mirrors⟩ := forall₂_getElem? alike.devices there
  simp only [Bench.pipe?, Bench.device?, otherThere, mirrors.pipes]
  rfl

theorem pipeProperties_bench (alike : Alike bench bus) (interface : BenchInterface)
    {known : BusDevice} (there : bus.devices[interface.device]? = some known) (pipe : UInt8) :
    Access.pipeProperties (σ := Bench) interface pipe bench =
      (Access.atStep .getPipeProperties (known.describedPipes.ask pipe),
        bench.recordAll [.pipeProperties interface.device pipe]) := by
  have look := alike.pipe?_eq there pipe
  simp only [Access.pipeProperties, NativeLayer.pipeProperties, Bench.observe_eq, alike.fault?_eq]
  rw [← look]
  rfl

theorem read_bench (alike : Alike bench bus) (interface : BenchInterface) {known : BusDevice}
    (there : bus.devices[interface.device]? = some known) {pipe : UInt8}
    (misaimed : ∀ found, known.describedPipes.get? pipe = some found → found.direction ≠ .input)
    (buffer : Bytes) :
    Access.read (σ := Bench) interface pipe buffer bench =
      ((.error (.native .readPipe .invalidParameter), buffer),
        bench.recordAll [.readPipe interface.device pipe buffer.length Timeouts.pipe]) := by
  have look : (bench.record (.readPipe interface.device pipe buffer.length Timeouts.pipe)).pipe?
      interface.device pipe = known.describedPipes.ask pipe := alike.pipe?_eq there pipe
  simp only [Access.read, NativeLayer.readPipe, Bench.readPipe, Bench.enter, alike.fault?_eq, look,
    PipeTable.ask]
  cases described : known.describedPipes.get? pipe with
  | none => rfl
  | some found =>
      simp only [if_neg (misaimed found described)]
      rfl

theorem write_bench (alike : Alike bench bus) (interface : BenchInterface) {known : BusDevice}
    (there : bus.devices[interface.device]? = some known) {pipe : UInt8}
    (misaimed : ∀ found, known.describedPipes.get? pipe = some found → found.direction ≠ .output)
    (data : Bytes) :
    Access.write (σ := Bench) interface pipe data bench =
      (.error (.native .writePipe .invalidParameter),
        bench.recordAll [.writePipe interface.device pipe data Timeouts.pipe]) := by
  have look : (bench.recordAll [.writePipe interface.device pipe data Timeouts.pipe]).pipe?
      interface.device pipe = known.describedPipes.ask pipe := alike.pipe?_eq there pipe
  simp only [Access.write, NativeLayer.writePipe, Bench.writePipe, Bench.observe_eq,
    alike.fault?_eq, look, PipeTable.ask]
  cases described : known.describedPipes.get? pipe with
  | none => rfl
  | some found =>
      simp only [if_neg (misaimed found described)]
      rfl

theorem findInterface_bench (alike : Alike bench bus) (vendorId productId : UInt16) :
    ∃ calls, Access.findInterface vendorId productId bench =
      (.ok ((bus.devices.findIdx? (BusDevice.isMatch (.interface vendorId productId))).map
        fun device => ⟨device, true⟩), bench.recordAll calls) := by
  rcases called : Access.findInterface vendorId productId bench with ⟨answer, host⟩
  obtain ⟨calls, search, rfl⟩ := Bench.findInterface_search called
  refine ⟨calls, ?_⟩
  rw [← alike.findIdx?_eq]
  cases search with
  | unresolved resolved =>
      cases resolved with
      | unmatched fails | uncreated matching found fails | unqueried matching found creates fails =>
          simp [alike.fault?_eq] at fails
  | absent resolved =>
      cases resolved with
      | absent matching absent => rw [absent]; rfl
  | unopened resolved fails => simp [alike.fault?_eq] at fails
  | opened resolved opens =>
      cases resolved with
      | resolved matching found => rw [found]; rfl

theorem findDevice_bench (alike : Alike bench bus) (vendorId productId : UInt16) :
    ∃ calls, Access.findDevice vendorId productId bench =
      (.ok (bus.devices.findIdx? (BusDevice.isMatch (.device vendorId productId))),
        bench.recordAll calls) := by
  rcases called : Access.findDevice vendorId productId bench with ⟨answer, host⟩
  obtain ⟨calls, resolution, rfl⟩ := Bench.findDevice_resolution called
  refine ⟨calls, ?_⟩
  rw [← alike.findIdx?_eq]
  cases resolution with
  | unmatched fails | uncreated matching found fails | unqueried matching found creates fails =>
      simp [alike.fault?_eq] at fails
  | absent matching absent => rw [absent]
  | resolved matching found => rw [found]

theorem lookup_bus (alike : Alike bench bus) {vendorId productId : UInt16} {held : Nat → Bool}
    (free : ∀ device,
      bus.devices.findIdx? (BusDevice.isMatch (.interface vendorId productId)) = some device →
      held device = false) :
    (bus.lookup held vendorId productId).1 =
      .ok (bus.devices.findIdx? (BusDevice.isMatch (.interface vendorId productId))) := by
  have listed := alike.listed
  unfold Bus.lookup
  rw [if_neg (by omega)]
  cases first : bus.devices.findIdx? (BusDevice.isMatch (.interface vendorId productId)) with
  | none => rfl
  | some device =>
      obtain ⟨known, there, -⟩ := Bus.findIdx?_there first
      simp [alike.codeAt_eq there, free device first]

theorem findInterface_bus (alike : Alike bench bus) (fresh : bus.IsFresh)
    {vendorId productId : UInt16}
    (free : ∀ device,
      bus.devices.findIdx? (BusDevice.isMatch (.interface vendorId productId)) = some device →
      bus.holds device = false) :
    match bus.devices.findIdx? (BusDevice.isMatch (.interface vendorId productId)) with
    | none => Access.findInterface vendorId productId bus = (.ok none, bus)
    | some device => ∃ known, bus.devices[device]? = some known ∧
        Access.findInterface vendorId productId bus =
          (.ok (some (⟨bus.nextOn device, 0, known.pipes, true⟩ : BusInterface)),
            bus.claimedNew device) := by
  rcases called : Access.findInterface vendorId productId bus with ⟨answer, host⟩
  have search := Bus.findInterface_searches fresh called
  have answers := alike.lookup_bus free
  generalize bus.lookup bus.holds vendorId productId = looked at search answers
  cases search with
  | failed => cases answers
  | absent =>
      rw [← Except.ok.inj answers]
  | found there =>
      rw [← Except.ok.inj answers]
      exact ⟨_, there, rfl⟩

theorem findDevice_bus (alike : Alike bench bus) (vendorId productId : UInt16) :
    Access.findDevice (σ := Bus) vendorId productId bus =
      match bus.devices.findIdx? (BusDevice.isMatch (.device vendorId productId)) with
      | none => (.ok none, bus)
      | some device => (.ok (some (bus.nextOn device)), bus.opened device) := by
  have listed : ¬bus.listCode < 0 := by
    have nonnegative := alike.listed
    omega
  unfold Access.findDevice Access.resolve
  simp only [NativeLayer.matchService, NativeLayer.createPlugin, NativeLayer.queryDevice,
    NativeLayer.releasePlugin, Bus.matchService, Bus.attached, if_neg listed, Bus.native]
  cases first : bus.devices.findIdx? (BusDevice.isMatch (.device vendorId productId)) with
  | none => rfl
  | some device =>
      obtain ⟨known, there, -⟩ := Bus.findIdx?_there first
      simp only [Option.map_some, Bus.createPlugin_eq, alike.codeAt_eq there,
        Bus.check_eq_ok.mpr rfl]
      rfl

theorem closeInterface_bench (alike : Alike bench bus) (device : Nat) :
    Access.closeInterface (σ := Bench) (⟨device, true⟩ : BenchInterface) bench =
      (.ok (), bench.recordAll [.closeInterface device, .releaseInterface device]) := by
  rcases called : Access.closeInterface (σ := Bench) (⟨device, true⟩ : BenchInterface) bench with
    ⟨answer, host⟩
  obtain ⟨calls, close, rfl⟩ := Bench.closeInterface_close called
  cases close with
  | failed fails => simp [alike.fault?_eq] at fails
  | notOpen closes shut => cases shut
  | closed closes => rfl

theorem closeInterface_bus (alike : Alike bench bus) {handle : BusHandle} {known : BusDevice}
    (pipes : PipeTable) (there : bus.devices[handle.device]? = some known)
    (holder : bus.holder? handle.device 0 = some handle.number) :
    ∃ host, Access.closeInterface (σ := Bus) (⟨handle, 0, pipes, true⟩ : BusInterface) bus =
        (.ok (), host) ∧ host.devices = bus.devices ∧ host.listCode = bus.listCode := by
  rcases called : Access.closeInterface (σ := Bus) (⟨handle, 0, pipes, true⟩ : BusInterface) bus
    with ⟨answer, host⟩
  have succeeds : answer = .ok () := by
    rw [(Bus.closeInterface_closes holder called).1, Bus.closing, alike.codeAt_eq there]
    rfl
  cases Bus.closeInterface_close called with
  | kept few => cases succeeds
  | closed => exact ⟨_, rfl, rfl, rfl⟩

end Alike

end UsbHost
