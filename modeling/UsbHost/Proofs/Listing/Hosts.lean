import UsbHost.Proofs.Bench.Effect
import UsbHost.Proofs.Bus.Effect
import UsbHost.Proofs.Listing.Row

/-!
Benches and buses both have their devices in a row. On a bench every descriptor can be read; on a
bus the result codes of a device tell whether its descriptor and its configuration can.
-/

namespace UsbHost

namespace BenchCall

def entering? : BenchCall → Option Nat
  | createPlugin device _ => some device
  | _ => none

end BenchCall

namespace BenchDevice

def sighting (device : BenchDevice) : Sighting where
  summary := device.summary
  isReadable := true
  offersInterface := device.configuration == 1 && device.interfaces.contains 0

theorem isMatch_eq_answers (vendorId productId : UInt16) (kind : HandleKind)
    (device : BenchDevice) :
    device.isMatch (kind.criteria vendorId productId) =
      device.sighting.answers vendorId productId kind := by
  cases kind with
  | device => simp [isMatch, HandleKind.criteria, Criteria.device, Criteria.matchesIds, sighting,
      Sighting.answers, DeviceSummary.hasIds]
  | interface => simp [isMatch, HandleKind.criteria, Criteria.interface, Criteria.matchesIds,
      sighting, Sighting.answers, DeviceSummary.hasIds, Bool.beq_comm]

end BenchDevice

namespace BusDevice

def sighting (device : BusDevice) : Sighting where
  summary := device.summary
  isReadable := device.code .descriptor == 0
  offersInterface :=
    device.code .activeConfiguration == 0 && device.configuration == 1 && device.hasInterface 0

theorem isMatch_eq_answers (vendorId productId : UInt16) (kind : HandleKind) (device : BusDevice) :
    device.isMatch (kind.criteria vendorId productId) =
      device.sighting.answers vendorId productId kind := by
  cases kind with
  | device => simp [isMatch, HandleKind.criteria, Criteria.device, Criteria.matchesIds, sighting,
      Sighting.answers, DeviceSummary.hasIds, summary]
  | interface => simp [isMatch, HandleKind.criteria, Criteria.interface, Criteria.matchesIds,
      sighting, Sighting.answers, DeviceSummary.hasIds, summary, Bool.beq_comm]

end BusDevice

namespace Bench

def enteredDevices (bench : Bench) : List Nat := bench.calls.filterMap BenchCall.entering?

@[simp] theorem enteredDevices_recordAll (calls : List BenchCall) (bench : Bench) :
    (bench.recordAll calls).enteredDevices =
      bench.enteredDevices ++ calls.filterMap BenchCall.entering? := List.filterMap_append

theorem enteredDevices_observe {α : Type} {call : BenchCall} (passes : call.entering? = none)
    (step : NativeStep) (answer : Bench → Except NativeFault α) (bench : Bench) :
    (observe call step answer bench).2.enteredDevices = bench.enteredDevices := by
  rw [observe_eq]
  simp [passes]

theorem listDevices_ok {bench after : Bench} {summaries : List DeviceSummary}
    (lists : NativeLayer.listDevices bench = (.ok summaries, after)) :
    bench.fault? .serviceMatching = none ∧ summaries = bench.devices.map BenchDevice.summary := by
  simp only [NativeLayer.listDevices, observe_eq, Prod.mk.injEq] at lists
  cases told : bench.fault? .serviceMatching with
  | some fault => simp [told] at lists
  | none =>
      simp only [told, devices_recordAll, Except.ok.injEq] at lists
      exact ⟨rfl, lists.1.symm⟩

theorem answer_of_ok {α : Type} {call : BenchCall} {step : NativeStep}
    {answer : Bench → Except NativeFault α} {bench : Bench} {value : α}
    (succeeds : (observe call step answer bench).1 = .ok value) :
    answer (bench.recordAll [call]) = .ok value := by
  rw [observe_eq] at succeeds
  cases told : bench.fault? step with
  | some fault => simp [told] at succeeds
  | none => simpa [told] using succeeds

theorem summaries_row (bench : Bench) :
    ((bench.devices.map BenchDevice.sighting).filter Sighting.isReadable).map Sighting.summary =
      bench.devices.map BenchDevice.summary := by
  rw [List.filter_map, List.map_map]
  simp [Function.comp_def, BenchDevice.sighting]

instance : Lineup Bench where
  row bench := bench.devices.map BenchDevice.sighting
  entered := enteredDevices
  ofService device := device
  ofPlugin := BenchPlugin.device
  ofInterface := BenchInterface.device
  ofDevice device := device
  listed lists := (listDevices_ok lists).2.trans (summaries_row _).symm
  matched {bench summaries after} lists kind vendorId productId := by
    refine ⟨bench.devices.findIdx? (·.isMatch (kind.criteria vendorId productId)),
      bench.recordAll [.matchService (kind.criteria vendorId productId)], ?_, ?_, ?_⟩
    · rw [matchService_eq, (listDevices_ok lists).1]
    · rw [Option.map_id', Sighting.firstAnswering, List.findIdx?_map]
      congr 1
      funext device
      exact device.isMatch_eq_answers vendorId productId kind
    · simp [BenchCall.entering?]
  createPlugin device serviceClass bench := by
    rw [createPlugin_eq]
    refine ⟨by simp [BenchCall.entering?], ?_⟩
    intro plugin created
    cases told : bench.fault? .createPlugin with
    | some fault => simp [told] at created
    | none =>
        simp only [told, Except.ok.injEq] at created
        rw [← created]
  queryInterface plugin bench := by
    refine ⟨enteredDevices_observe rfl _ _ _, ?_⟩
    intro interface queried
    have answered := answer_of_ok queried
    split at answered
    · cases answered
      rfl
    · cases answered
  queryDevice plugin bench := by
    refine ⟨enteredDevices_observe rfl _ _ _, ?_⟩
    intro device queried
    have answered := answer_of_ok queried
    split at answered
    · cases answered
      rfl
    · cases answered
  releasePlugin plugin bench := by
    simp [NativeLayer.releasePlugin, record_eq, BenchCall.entering?]
  openInterface interface bench := by
    refine ⟨enteredDevices_observe rfl _ _ _, ?_⟩
    intro opened opens
    have answered := answer_of_ok opens
    split at answered
    · cases answered
    · cases answered
      rfl
  releaseInterface interface bench := by
    simp [NativeLayer.releaseInterface, record_eq, BenchCall.entering?]

end Bench

namespace Bus

def enteredDevices (bus : Bus) : List Nat := bus.calls.filterMap BusCall.opening?

theorem enteredDevices_recordAll (calls : List BusCall) (bus : Bus) :
    (bus.recordAll calls).enteredDevices =
      bus.enteredDevices ++ calls.filterMap BusCall.opening? := List.filterMap_append

theorem enteredDevices_record {call : BusCall} (passes : call.opening? = none) (bus : Bus) :
    (bus.record call).enteredDevices = bus.enteredDevices := by
  simp [enteredDevices, record, passes]

theorem enteredDevices_closeDevice (handle : BusHandle) (bus : Bus) :
    (bus.closeDevice handle).enteredDevices = bus.enteredDevices :=
  enteredDevices_record rfl bus

theorem enteredDevices_claim (handle : BusHandle) (interface : UInt8) (bus : Bus) :
    (bus.claim handle interface).2.enteredDevices = bus.enteredDevices := by
  have recorded : (bus.record (.claim handle.device interface)).enteredDevices =
      bus.enteredDevices := enteredDevices_record rfl bus
  unfold claim
  simp only
  split
  · exact recorded
  · split
    · exact recorded
    · split
      · exact recorded
      · exact recorded

theorem listDevices_ok {bus after : Bus} {summaries : List DeviceSummary}
    (lists : NativeLayer.listDevices bus = (.ok summaries, after)) :
    bus.attached = .ok bus.devices ∧
      summaries = (bus.devices.filter fun device => device.code .descriptor == 0).map
        BusDevice.summary := by
  simp only [NativeLayer.listDevices, listDevices, attached] at lists ⊢
  split at lists
  · cases lists
  · rename_i devices attached
    split at attached
    · cases attached
    · rename_i listed
      cases attached
      cases lists
      exact ⟨if_neg listed, rfl⟩

theorem queryInterface_enters (plugin : BusPlugin) (bus : Bus) :
    (queryInterface plugin bus).2.enteredDevices = bus.enteredDevices ∧
      ∀ interface, (queryInterface plugin bus).1.1 = .ok interface →
        ∃ handle, plugin.handle = some handle ∧ interface.handle = handle := by
  unfold queryInterface takeHandle
  split
  · exact ⟨rfl, by simp⟩
  · rename_i handle left taken
    split at taken
    · cases taken
    · split at taken
      · cases taken
      · rename_i held
        cases taken
        split
        · exact ⟨enteredDevices_closeDevice _ _, by simp⟩
        · rename_i interface read
          obtain ⟨pipes, rfl⟩ := readInterface_ok read
          refine ⟨rfl, ?_⟩
          rintro other same
          cases same
          exact ⟨handle, held, rfl⟩

theorem queryDevice_enters (plugin : BusPlugin) (bus : Bus) :
    ∀ handle, (queryDevice plugin bus).1.1 = .ok handle → plugin.handle = some handle := by
  intro handle queried
  unfold queryDevice takeHandle at queried
  split at queried
  · cases queried
  · split at queried
    · cases queried
    · rename_i held
      cases queried
      exact held

theorem openInterface_enters (interface : BusInterface) (bus : Bus) :
    (openInterface interface bus).2.enteredDevices = bus.enteredDevices ∧
      ∀ opened, (openInterface interface bus).1 = .ok opened →
        opened.handle = interface.handle := by
  have detached : (bus.autoDetach interface.handle).2.enteredDevices = bus.enteredDevices :=
    enteredDevices_record rfl bus
  rcases detaching : bus.autoDetach interface.handle with ⟨answer, freed⟩
  have claimed := enteredDevices_claim interface.handle interface.number freed
  rcases claiming : freed.claim interface.handle interface.number with ⟨reply, after⟩
  rw [detaching] at detached
  rw [claiming, detached] at claimed
  simp only [openInterface, detaching, claiming]
  split
  · cases reply with
    | error fault => exact ⟨claimed, by simp⟩
    | ok done => exact ⟨claimed, by rintro opened same; cases same; rfl⟩
  · cases reply with
    | error fault => exact ⟨claimed, by simp⟩
    | ok done => exact ⟨claimed, by rintro opened same; cases same; rfl⟩
  · exact ⟨detached, by simp⟩

instance : Lineup Bus where
  row bus := bus.devices.map BusDevice.sighting
  entered := enteredDevices
  ofService := BusService.device
  ofPlugin plugin := (plugin.handle.map BusHandle.device).getD plugin.device
  ofInterface interface := (BusInterface.handle interface).device
  ofDevice := BusHandle.device
  listed lists := by
    rw [(listDevices_ok lists).2, List.filter_map, List.map_map]
    rfl
  matched {bus summaries after} lists kind vendorId productId := by
    refine ⟨(bus.devices.findIdx? (BusDevice.isMatch (kind.criteria vendorId productId))).map
      fun device => ⟨device, kind.criteria vendorId productId⟩, bus, ?_, ?_, rfl⟩
    · simp only [NativeLayer.matchService, matchService, (listDevices_ok lists).1, native]
    · rw [Option.map_map, Sighting.firstAnswering, List.findIdx?_map]
      have same : BusDevice.isMatch (kind.criteria vendorId productId) =
          (fun sighting : Sighting => sighting.answers vendorId productId kind) ∘
            BusDevice.sighting := by
        funext device
        exact device.isMatch_eq_answers vendorId productId kind
      rw [same]
      exact Option.map_id'
  createPlugin service serviceClass bus := by
    simp only [NativeLayer.createPlugin, createPlugin_eq]
    cases BusFault.check (bus.codeAt service.device .openDevice) with
    | error fault => exact ⟨enteredDevices_recordAll _ _, by simp⟩
    | ok done =>
        refine ⟨enteredDevices_recordAll [.openDevice service.device] bus, ?_⟩
        intro plugin created
        cases created
        rfl
  queryInterface plugin bus := by
    obtain ⟨keeps, there⟩ := queryInterface_enters plugin bus
    refine ⟨keeps, ?_⟩
    intro interface queried
    obtain ⟨handle, held, same⟩ := there interface queried
    simp [held, same]
  queryDevice plugin bus := by
    refine ⟨rfl, ?_⟩
    intro handle queried
    simp [queryDevice_enters plugin bus handle queried]
  releasePlugin plugin bus := by
    simp only [NativeLayer.releasePlugin, releasePlugin]
    cases plugin.handle with
    | none => rfl
    | some handle => exact enteredDevices_closeDevice handle bus
  openInterface interface bus := by
    obtain ⟨keeps, there⟩ := openInterface_enters interface bus
    exact ⟨keeps, fun opened opens => congrArg BusHandle.device (there opened opens)⟩
  releaseInterface interface bus := by
    obtain ⟨calls, opensNone, -, released⟩ := releaseInterface_cases interface bus
    change (releaseInterface interface bus).enteredDevices = bus.enteredDevices
    have kept := enteredDevices_recordAll calls bus
    rw [opensNone, List.append_nil] at kept
    rw [released]
    exact kept

end Bus

/-- Where listing succeeds, lookups agree with the list and with each other, on a bench as on a bus;
the list of a bench leaves no device out. -/
theorem lookups_agree_with_listing (vendorId productId : UInt16) :
    (∀ (host : Bench) (summaries : List DeviceSummary),
      (Access.listDevices host).1 = .ok summaries →
      summaries = host.devices.map BenchDevice.summary ∧
        LookupsAgree host vendorId productId summaries) ∧
    ∀ (host : Bus) (summaries : List DeviceSummary),
      (Access.listDevices host).1 = .ok summaries →
      LookupsAgree host vendorId productId summaries := by
  refine ⟨?_, fun host summaries lists => Lineup.lookupsAgree lists vendorId productId⟩
  intro host summaries lists
  have agree := Lineup.lookupsAgree lists vendorId productId
  refine ⟨?_, agree⟩
  rw [agree.listed, Sighting.listing_fst]
  exact Bench.summaries_row host

def lookAlikes : Bus where
  devices := [{ address := 1, faults := [(.descriptor, -4)] }, { address := 2, configuration := 2 },
    { address := 3 }]

example :
    Sighting.firstListed 0x0483 0x5740 (Lineup.row lookAlikes) = some 1 ∧
      Sighting.firstAnswering 0x0483 0x5740 (Lineup.row lookAlikes) .interface = some 2 := by
  decide

theorem look_alikes_agree :
    (Access.listDevices ({ devices := [.probe] } : Bench)).1 = .ok [⟨1, 1, 0x0483, 0x5740⟩] ∧
      LookupsAgree ({ devices := [.probe] } : Bench) 0x0483 0x5740 [⟨1, 1, 0x0483, 0x5740⟩] ∧
      (Access.listDevices lookAlikes).1 =
        .ok [⟨1, 2, 0x0483, 0x5740⟩, ⟨1, 3, 0x0483, 0x5740⟩] ∧
      LookupsAgree lookAlikes 0x0483 0x5740 [⟨1, 2, 0x0483, 0x5740⟩, ⟨1, 3, 0x0483, 0x5740⟩] :=
  ⟨by decide, ((lookups_agree_with_listing 0x0483 0x5740).1 _ _ (by decide)).2, by decide,
    (lookups_agree_with_listing 0x0483 0x5740).2 _ _ (by decide)⟩

end UsbHost
