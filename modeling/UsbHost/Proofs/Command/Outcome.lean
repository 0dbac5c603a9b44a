import UsbHost.Proofs.Command.Refusal
import UsbHost.Proofs.Command.Visit

/-!
Which failure a run reports. A run that gets as far as its lookup reports the first thing that
fails: the lookup, then the operation, then the close; and it prints a result only if nothing
failed. Whatever is reported, what was opened has been closed before.
-/

namespace UsbHost

namespace Ending

end Ending

namespace Command

variable {σ : Type} [NativeLayer σ]

def shut (interface : NativeLayer.Interface σ) (host : σ) : Except Failure Unit × σ :=
  match Access.closeInterface interface host with
  | (.ok (), host) => (.ok (), host)
  | (.error failure, host) => (.error failure, NativeLayer.dropInterface interface host)

theorem withInterface_found {α : Type} {vendorId productId : UInt16}
    {operation : NativeLayer.Interface σ → σ → Except Failure α × σ}
    {interface : NativeLayer.Interface σ} {host found operated : σ} {result : Except Failure α}
    (called : Access.findInterface vendorId productId host = (.ok (some interface), found))
    (operates : operation interface found = (result, operated)) :
    withInterface vendorId productId operation host =
      (ofUsb (result.bind fun value => (shut interface operated).1.map fun () => value),
        (shut interface operated).2) := by
  simp only [withInterface, called, operates, shut]
  rcases Access.closeInterface interface operated with ⟨closed, left⟩
  cases closed with
  | error failure => rfl
  | ok done =>
      cases result with
      | error failure => rfl
      | ok value => rfl

end Command

namespace Bus

theorem holder?_claimedNew {bus : Bus} {device : Nat} (free : bus.holder? device 0 = none) :
    (bus.claimedNew device).holder? device 0 = some bus.nextHandle := by
  rw [holder?, Option.map_eq_none_iff] at free
  simp [holder?, claimedNew, List.find?_append, free, claimOf, nextOn]

/-- What giving up an interface after its close logs: nothing if it was closed, and otherwise its
claim is released once more and its handle is closed. -/
def givingUp (device : Nat) : Except Failure Unit → List BusCall
  | .ok () => []
  | .error _ => [.release device 0, .closeDevice device]

theorem shut_closes {bus : Bus} (handle : BusHandle) (pipes : PipeTable)
    (holder : bus.holder? handle.device 0 = some handle.number) :
    (Command.shut (σ := Bus) (⟨handle, 0, pipes, true⟩ : BusInterface) bus).1 =
        (bus.closing handle.device).1 ∧
      (Command.shut (σ := Bus) (⟨handle, 0, pipes, true⟩ : BusInterface) bus).2.calls =
        bus.calls ++ (bus.closing handle.device).2 ++
          givingUp handle.device (bus.closing handle.device).1 := by
  unfold Command.shut
  rcases closed : Access.closeInterface (σ := Bus) (⟨handle, 0, pipes, true⟩ : BusInterface) bus
    with ⟨ending, left⟩
  obtain ⟨ends, logged⟩ := closeInterface_closes holder closed
  rw [← ends, ← logged]
  cases ending with
  | ok done => exact ⟨rfl, (List.append_nil _).symm⟩
  | error failure =>
      refine ⟨rfl, ?_⟩
      simp only [NativeLayer.dropInterface, releaseInterface, if_true, giveUp,
        closeDevice_release]
      rfl

theorem Traffic.logged {device : Nat} {bus host : Bus} (traffic : Traffic device bus host) :
    ∃ uses, host.calls = bus.calls ++ uses ∧ (∀ call ∈ uses, call.traffic? = some device) ∧
      host.claims = bus.claims := by
  obtain ⟨uses, devices, rfl, goes⟩ := traffic.calls
  exact ⟨uses, rfl, goes, rfl⟩

theorem Visit.released {bus after : Bus} {service? : Option ServiceClass}
    (visit : Visit bus service? after) :
    after.handles = bus.handles ∧ after.claims = bus.claims := by
  cases visit with
  | away | unopened | undone | interface | device => exact ⟨rfl, rfl⟩

def lookupDevice (vendorId productId : UInt16) (bus : Bus) :
    Except Failure (Option Nat) × List BusCall :=
  if bus.listCode < 0 then
    (.error (.native .serviceMatching (BusFault.ofCode bus.listCode).toNative), [])
  else
    match bus.devices.findIdx? (BusDevice.isMatch (.device vendorId productId)) with
    | none => (.ok none, [])
    | some device =>
      if bus.codeAt device .openDevice ≠ 0 then
        (.error (.native .createPlugin (bus.faultAt device .openDevice)), [.openDevice device])
      else (.ok (some device), [.openDevice device])

theorem findDevice_eq (vendorId productId : UInt16) (bus : Bus) :
    Access.findDevice (σ := Bus) vendorId productId bus =
      match bus.lookupDevice vendorId productId with
      | (.error failure, calls) => (.error failure, bus.recordAll calls)
      | (.ok none, _) => (.ok none, bus)
      | (.ok (some device), _) => (.ok (some (bus.nextOn device)), bus.opened device) := by
  unfold Access.findDevice Access.resolve lookupDevice
  simp only [NativeLayer.matchService, NativeLayer.createPlugin, NativeLayer.queryDevice,
    NativeLayer.releasePlugin, matchService, attached]
  by_cases unlisted : bus.listCode < 0
  · simp only [if_pos unlisted, native, recordAll_nil]
  · simp only [if_neg unlisted, native]
    cases bus.devices.findIdx? (BusDevice.isMatch (.device vendorId productId)) with
    | none => rfl
    | some device =>
        simp only [Option.map_some, createPlugin_eq]
        by_cases fails : bus.codeAt device .openDevice ≠ 0
        · simp only [check_eq_error fails, if_pos fails]
          rfl
        · simp only [check_eq_ok.mpr (Decidable.not_not.mp fails), if_neg fails]
          rfl

end Bus

theorem InterfaceTask.traffic (vendorId productId : UInt16) (interface : BusInterface) (bus : Bus)
    (task : InterfaceTask) :
    Bus.Traffic interface.handle.device bus (task.run vendorId productId interface bus).2 := by
  cases task with
  | probe isJson =>
      have same := Command.pipes_host interface bus
      simp only [run]
      rw [same]
      exact .untouched
  | control setup buffer => exact Bus.controlRequest_traffic interface setup buffer bus
  | read pipe size => exact Bus.read_traffic interface pipe (Bytes.zeros size) bus
  | write pipe data => exact Bus.write_traffic interface pipe data bus

theorem InterfaceTask.shut_operated {vendorId productId : UInt16} {bus operated : Bus}
    {device : Nat} {result : Except Failure String} (task : InterfaceTask)
    (free : bus.holder? device 0 = none) (pipes : PipeTable)
    (operates : task.run vendorId productId (⟨bus.nextOn device, 0, pipes, true⟩ : BusInterface)
      (bus.claimedNew device) = (result, operated)) :
    (Command.shut (σ := Bus) (⟨bus.nextOn device, 0, pipes, true⟩ : BusInterface) operated).1 =
        (operated.closing device).1 ∧
      (Command.shut (σ := Bus) (⟨bus.nextOn device, 0, pipes, true⟩ : BusInterface)
        operated).2.calls =
          operated.calls ++ (operated.closing device).2 ++
            Bus.givingUp device (operated.closing device).1 := by
  have moves := task.traffic vendorId productId
    (⟨bus.nextOn device, 0, pipes, true⟩ : BusInterface) (bus.claimedNew device)
  rw [operates] at moves
  obtain ⟨uses, -, -, same⟩ := moves.logged
  dsimp only at same
  -- The task changes no claims, so its interface still has its own when it is shut.
  have holder : operated.holder? device 0 = some bus.nextHandle := by
    rw [Bus.holder?, same]
    exact Bus.holder?_claimedNew free
  exact Bus.shut_closes (bus.nextOn device) pipes holder

namespace Task

open Bus

end Task

namespace Program

end Program

end UsbHost
