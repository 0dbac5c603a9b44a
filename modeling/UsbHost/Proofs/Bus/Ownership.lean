import UsbHost.Proofs.Bus.Effect
import UsbHost.Proofs.Words.Issue

/-!
Who owns the handles of a bus. Between two words every open handle belongs to one entry of the two
tables, and every claim to one entry of the table of interfaces.
-/

namespace UsbHost

theorem filterMap_prefix {α β : Type} (answer : α → Option β) {few all : List α}
    (part : few <+: all) (silent : all.filterMap answer = []) : few.filterMap answer = [] := by
  have shorter := part.filterMap answer
  rw [silent] at shorter
  exact List.prefix_nil.mp shorter

namespace Session

def heldHandles (session : Session Bus) : List BusHandle :=
  session.interfaces.entries.map (fun entry => BusInterface.handle entry.2) ++
    session.devices.entries.map Prod.snd

def heldClaims (session : Session Bus) : List Claim :=
  session.interfaces.entries.map fun entry => Bus.claimOf (BusInterface.handle entry.2)

/-- What a word comes to on a bus: it leaves handles and claims alone, opens a handle and closes it
again, adds one entry with its handle, or takes one entry away with its handle. An entry that is
added once all identifiers were handed out may displace another, whose handle is then given up. -/
inductive Dealing (session : Session Bus) : Except WordFault Unit → Session Bus → Prop
  | quiet {result machine calls devices}
      (opens : ∀ device ∈ calls.filterMap BusCall.opening?,
        session.host.codeAt device .openDevice ≠ 0)
      (closes : calls.filterMap BusCall.closing? = []) :
      Dealing session result
        { session with machine, host := { session.host.recordAll calls with devices } }
  | undone {failure machine device tried} (opens : session.host.codeAt device .openDevice = 0)
      (few : tried <+: [.autoDetach device, .claim device 0]) :
      Dealing session (.error (.usb failure))
        { session with
          machine
          host := {
            session.host.recordAll (.openDevice device :: (tried ++ [.closeDevice device])) with
            nextHandle := session.host.nextHandle + 1 } }
  | interfaceAdded {machine device pipes} (opens : session.host.codeAt device .openDevice = 0)
      (unheld : session.host.holder? device 0 = none)
      (free : session.interfaces.get? session.interfaces.next = none) :
      Dealing session (.ok ())
        { session with
          machine
          host := session.host.claimedNew device
          interfaces :=
            (session.interfaces.insert (⟨session.host.nextOn device, 0, pipes, true⟩ :
              BusInterface)).2 }
  | interfaceReplaced {machine device pipes calls} {displaced : BusInterface}
      (opens : session.host.codeAt device .openDevice = 0)
      (unheld : session.host.holder? device 0 = none)
      (live : session.interfaces.get? session.interfaces.next = some displaced)
      (opensNone : calls.filterMap BusCall.opening? = [])
      (closesOne : calls.filterMap BusCall.closing? = [displaced.handle.device]) :
      Dealing session (.ok ())
        { session with
          machine
          host := ((session.host.claimedNew device).recordAll calls).without displaced.handle
          interfaces :=
            (session.interfaces.insert (⟨session.host.nextOn device, 0, pipes, true⟩ :
              BusInterface)).2 }
  | deviceAdded {machine device} (opens : session.host.codeAt device .openDevice = 0)
      (free : session.devices.get? session.devices.next = none) :
      Dealing session (.ok ())
        { session with
          machine
          host := session.host.opened device
          devices := (session.devices.insert (session.host.nextOn device)).2 }
  | deviceReplaced {machine device} {displaced : BusHandle}
      (opens : session.host.codeAt device .openDevice = 0)
      (live : session.devices.get? session.devices.next = some displaced) :
      Dealing session (.ok ())
        { session with
          machine
          host := ((session.host.opened device).recordAll
            [.closeDevice displaced.device]).without displaced
          devices := (session.devices.insert (session.host.nextOn device)).2 }
  | interfaceDropped {machine handle} {interface : BusInterface}
      (live : session.interfaces.get? handle = some interface) :
      Dealing session (.ok ())
        { session with
          machine
          host := (session.host.recordAll [.release interface.handle.device interface.number,
            .closeDevice interface.handle.device]).without interface.handle
          interfaces := session.interfaces.erase handle }
  | deviceDropped {machine handle} {device : BusHandle}
      (live : session.devices.get? handle = some device) :
      Dealing session (.ok ())
        { session with
          machine
          host := (session.host.recordAll [.closeDevice device.device]).without device
          devices := session.devices.erase handle }

theorem Dealing.refused {session : Session Bus} {result : Except WordFault Unit}
    {machine : Machine} : Dealing session result { session with machine } := by
  have quiet := @Dealing.quiet session result machine [] session.host.devices (by simp) rfl
  rwa [Bus.recordAll_nil] at quiet

theorem Dealing.used {session : Session Bus} {host : Bus} {result : Except WordFault Unit}
    {machine : Machine} (use : session.host.Use host) :
    Dealing session result { session with machine, host } := by
  cases use with
  | untouched => exact .refused
  | called opensNone closesNone => exact .quiet (by simp [opensNone]) (by simp [closesNone])

end Session

open Session

theorem WordEnding.dealing {session after : Session Bus} {word : Word}
    {result : Except WordFault Unit} (ending : WordEnding session word result after)
    (fresh : session.host.IsFresh) : Dealing session result after := by
  cases ending with
  | refused | unknown | outside => exact .refused
  | interfaceFailed taken called =>
      cases Bus.findInterface_search fresh called with
      | unlisted => exact .refused
      | unopened fails => exact .quiet (by simpa [BusCall.opening?] using fails) rfl
      | undone opens few => exact .undone opens few
  | interfaceAbsent taken called =>
      cases Bus.findInterface_search fresh called with
      | absent => exact .refused
  | interfaceFound taken called =>
      cases Bus.findInterface_search fresh called with
      | found opens unheld =>
          rename_i device pipes
          unfold dropDisplaced
          cases live : session.interfaces.get? session.interfaces.next with
          | none => exact .interfaceAdded opens unheld live
          | some displaced =>
              obtain ⟨calls, opensNone, closesOne, dropped⟩ :=
                Bus.releaseInterface_cases displaced (session.host.claimedNew device)
              simp only [NativeLayer.dropInterface, dropped]
              exact .interfaceReplaced opens unheld live opensNone closesOne
  | deviceFailed taken called =>
      cases Bus.findDevice_search called with
      | unlisted => exact .refused
      | unopened fails => exact .quiet (by simpa [BusCall.opening?] using fails) rfl
  | deviceAbsent taken called =>
      cases Bus.findDevice_search called with
      | absent => exact .refused
  | deviceFound taken called =>
      cases Bus.findDevice_search called with
      | found opens =>
          unfold dropDisplaced
          cases live : session.devices.get? session.devices.next with
          | none => exact .deviceAdded opens live
          | some displaced => exact .deviceReplaced opens live
  | interfaceKept taken live called =>
      cases Bus.closeInterface_close called with
      | kept few =>
          have opensNone := filterMap_prefix BusCall.opening? few rfl
          have closesNone := filterMap_prefix BusCall.closing? few rfl
          exact .quiet (by simp [opensNone]) closesNone
  | interfaceClosed taken live called =>
      cases Bus.closeInterface_close called with
      | closed => exact .interfaceDropped live
  | deviceClosed taken live => exact .deviceDropped live
  | controlled taken live granted called => exact .used (Bus.controlRequest_use called)
  | requested taken live granted called => exact .used (Bus.request_use called)
  | readFrom taken live granted called => exact .used (Bus.read_use called)
  | writtenTo taken live granted called => exact .used (Bus.write_use called)
  | described taken live called =>
      obtain ⟨rfl, -⟩ := Bus.pipeProperties_answer called
      exact .refused

namespace Session

/-- Every open handle belongs to one entry, and every claim to one kept interface. -/
structure Owned (session : Session Bus) : Prop where
  handles : session.host.handles.Perm session.heldHandles
  claims : session.host.claims.Perm session.heldClaims
  claimed : ∀ entry ∈ session.interfaces.entries,
    BusInterface.number entry.2 = 0 ∧ BusInterface.isClaimed entry.2 = true
  numbered : (session.host.handles.map BusHandle.number).Nodup
  older : ∀ handle ∈ session.host.handles, handle.number < session.host.nextHandle
  exclusive : (session.host.claims.map Claim.device).Nodup

namespace Owned

variable {session : Session Bus}

theorem start (devices : List BusDevice) (machine : Machine) :
    Owned (start { devices } machine) where
  handles := .nil
  claims := .nil
  claimed := by simp [Session.start]
  numbered := List.nodup_nil
  older := by simp [Session.start]
  exclusive := List.nodup_nil

theorem interface_claim {claim : Claim} (owned : Owned session)
    (member : claim ∈ session.host.claims) : claim.interface = 0 := by
  obtain ⟨entry, entryMember, rfl⟩ := List.mem_map.mp (owned.claims.subset member)
  rfl

theorem mem_handles_of_interface {handle : Cell} {interface : BusInterface}
    (owned : Owned session) (live : session.interfaces.get? handle = some interface) :
    interface.handle ∈ session.host.handles := by
  refine owned.handles.symm.subset (List.mem_append_left _ ?_)
  exact List.mem_map.mpr ⟨(handle, interface), HandleTable.mem_of_get? live, rfl⟩

theorem mem_handles_of_device {handle : Cell} {device : BusHandle} (owned : Owned session)
    (live : session.devices.get? handle = some device) : device ∈ session.host.handles := by
  refine owned.handles.symm.subset (List.mem_append_right _ ?_)
  exact List.mem_map.mpr ⟨(handle, device), HandleTable.mem_of_get? live, rfl⟩

theorem fresh (owned : Owned session) : session.host.IsFresh where
  handles := owned.older
  claims := by
    intro claim member
    obtain ⟨entry, entryMember, rfl⟩ := List.mem_map.mp (owned.claims.subset member)
    refine owned.older _ (owned.handles.symm.subset (List.mem_append_left _ ?_))
    exact List.mem_map.mpr ⟨entry, entryMember, rfl⟩

theorem holder (owned : Owned session) {handle : Cell} {interface : BusInterface}
    (live : session.interfaces.get? handle = some interface) :
    session.host.holder? interface.handle.device 0 = some interface.handle.number := by
  have member : Bus.claimOf interface.handle ∈ session.host.claims := by
    refine owned.claims.symm.subset ?_
    exact List.mem_map.mpr ⟨(handle, interface), HandleTable.mem_of_get? live, rfl⟩
  have found : (session.host.claims.find? fun claim =>
      claim.device == interface.handle.device && claim.interface == 0).isSome := by
    rw [List.find?_isSome]
    exact ⟨_, member, by simp [Bus.claimOf]⟩
  obtain ⟨claim, first⟩ := Option.isSome_iff_exists.mp found
  have sameDevice := List.find?_some first
  simp only [Bool.and_eq_true, beq_iff_eq] at sameDevice
  have same : claim = Bus.claimOf interface.handle :=
    List.inj_on_of_nodup_map owned.exclusive (List.mem_of_find?_eq_some first) member
      sameDevice.1
  rw [Bus.holder?, first, same]
  rfl

theorem notMem_of_free (owned : Owned session) {device : Nat}
    (free : session.host.holder? device 0 = none) :
    device ∉ session.host.claims.map Claim.device := by
  intro member
  obtain ⟨claim, claimMember, rfl⟩ := List.mem_map.mp member
  have unmatched := List.find?_eq_none.mp (Option.map_eq_none_iff.mp free) claim claimMember
  simp [owned.interface_claim claimMember] at unmatched

theorem without_interface (owned : Owned session) {handle : Cell} {interface : BusInterface}
    (live : session.interfaces.get? handle = some interface) :
    (session.host.without interface.handle).handles.Perm
        (heldHandles { session with interfaces := session.interfaces.erase handle }) ∧
      (session.host.without interface.handle).claims.Perm
        (heldClaims { session with interfaces := session.interfaces.erase handle }) := by
  have entries := HandleTable.entries_perm_erase live
  constructor
  · have split := perm_cons_filter_ne BusHandle.number owned.numbered
      (owned.mem_handles_of_interface live)
    have held : session.heldHandles.Perm (interface.handle ::
        heldHandles { session with interfaces := session.interfaces.erase handle }) :=
      (entries.map _).append_right _
    exact (split.symm.trans (owned.handles.trans held)).cons_inv
  · have member : Bus.claimOf interface.handle ∈ session.host.claims := by
      refine owned.claims.symm.subset ?_
      exact List.mem_map.mpr ⟨(handle, interface), HandleTable.mem_of_get? live, rfl⟩
    have distinct : (session.host.claims.map Claim.handle).Nodup := by
      have numbers : (session.heldHandles.map BusHandle.number).Nodup :=
        (owned.handles.map _).nodup_iff.mp owned.numbered
      rw [(owned.claims.map Claim.handle).nodup_iff]
      simp only [heldHandles, List.map_append, List.map_map] at numbers
      simp only [heldClaims, List.map_map]
      exact (List.nodup_append.mp numbers).1
    have split := perm_cons_filter_ne Claim.handle distinct member
    have held : session.heldClaims.Perm (Bus.claimOf interface.handle ::
        heldClaims { session with interfaces := session.interfaces.erase handle }) :=
      entries.map _
    exact (split.symm.trans (owned.claims.trans held)).cons_inv

theorem without_device (owned : Owned session) {handle : Cell} {device : BusHandle}
    (live : session.devices.get? handle = some device) :
    (session.host.without device).handles.Perm
        (heldHandles { session with devices := session.devices.erase handle }) ∧
      (session.host.without device).claims = session.host.claims := by
  have entries := HandleTable.entries_perm_erase live
  constructor
  · have split := perm_cons_filter_ne BusHandle.number owned.numbered
      (owned.mem_handles_of_device live)
    have held : session.heldHandles.Perm (device ::
        heldHandles { session with devices := session.devices.erase handle }) :=
      ((entries.map _).append_left _).trans List.perm_middle
    exact (split.symm.trans (owned.handles.trans held)).cons_inv
  · refine List.filter_eq_self.mpr ?_
    intro claim member
    obtain ⟨entry, entryMember, rfl⟩ := List.mem_map.mp (owned.claims.subset member)
    have numbers : (session.heldHandles.map BusHandle.number).Nodup :=
      (owned.handles.map _).nodup_iff.mp owned.numbered
    simp only [heldHandles, List.map_append, List.map_map] at numbers
    have apart := (List.nodup_append.mp numbers).2.2 _ (List.mem_map_of_mem entryMember) _
      (List.mem_map_of_mem (HandleTable.mem_of_get? live))
    simpa [Bus.claimOf] using apart

theorem of_same {other : Session Bus} (owned : Owned session)
    (handles : other.host.handles = session.host.handles)
    (claims : other.host.claims = session.host.claims)
    (next : other.host.nextHandle = session.host.nextHandle)
    (interfaces : other.interfaces.entries = session.interfaces.entries)
    (devices : other.devices.entries = session.devices.entries) : Owned other where
  handles := by simpa [heldHandles, handles, interfaces, devices] using owned.handles
  claims := by simpa [heldClaims, claims, interfaces] using owned.claims
  claimed := by simpa only [interfaces] using owned.claimed
  numbered := by simpa only [handles] using owned.numbered
  older := by simpa only [handles, next] using owned.older
  exclusive := by simpa only [claims] using owned.exclusive

theorem numbered_append (owned : Owned session) (device : Nat) :
    ((session.host.handles ++ [session.host.nextOn device]).map BusHandle.number).Nodup := by
  rw [List.map_append, List.nodup_append]
  refine ⟨owned.numbered, List.nodup_singleton _, ?_⟩
  intro number member other otherMember same
  obtain ⟨handle, handleMember, rfl⟩ := List.mem_map.mp member
  have older := owned.older handle handleMember
  rw [List.map_singleton, List.mem_singleton] at otherMember
  rw [same, otherMember] at older
  exact Nat.lt_irrefl _ older

theorem number_ne (owned : Owned session) {handle : BusHandle}
    (member : handle ∈ session.host.handles) : session.host.nextHandle ≠ handle.number :=
  Nat.ne_of_gt (owned.older handle member)

theorem older_append (owned : Owned session) (device : Nat) :
    ∀ handle ∈ session.host.handles ++ [session.host.nextOn device],
      handle.number < session.host.nextHandle + 1 := by
  intro handle member
  rcases List.mem_append.mp member with earlier | newest
  · exact Nat.lt_succ_of_lt (owned.older handle earlier)
  · rw [List.mem_singleton.mp newest]
    exact Nat.lt_succ_self _

theorem dropInterface (owned : Owned session) {handle : Cell} {interface : BusInterface}
    (live : session.interfaces.get? handle = some interface) :
    Owned { session with
      host := session.host.without interface.handle
      interfaces := session.interfaces.erase handle } := by
  obtain ⟨handles, claims⟩ := owned.without_interface live
  exact {
    handles := handles
    claims := claims
    claimed := fun entry member => owned.claimed entry (List.mem_filter.mp member).1
    numbered := owned.numbered.sublist (List.filter_sublist.map _)
    older := fun other member => owned.older other (List.mem_filter.mp member).1
    exclusive := owned.exclusive.sublist (List.filter_sublist.map _) }

theorem dropDevice (owned : Owned session) {handle : Cell} {device : BusHandle}
    (live : session.devices.get? handle = some device) :
    Owned { session with
      host := session.host.without device
      devices := session.devices.erase handle } := by
  obtain ⟨handles, claims⟩ := owned.without_device live
  exact {
    handles := handles
    claims := claims ▸ owned.claims
    claimed := owned.claimed
    numbered := owned.numbered.sublist (List.filter_sublist.map _)
    older := fun other member => owned.older other (List.mem_filter.mp member).1
    exclusive := claims ▸ owned.exclusive }

theorem addInterface (owned : Owned session) {device : Nat} (pipes : PipeTable)
    (unclaimed : device ∉ session.host.claims.map Claim.device)
    (free : session.interfaces.get? session.interfaces.next = none) :
    Owned { session with
      host := session.host.claimedNew device
      interfaces :=
        (session.interfaces.insert (⟨session.host.nextOn device, 0, pipes, true⟩ :
          BusInterface)).2 } := by
  have entries := HandleTable.entries_insert free
    (⟨session.host.nextOn device, 0, pipes, true⟩ : BusInterface)
  refine {
    handles := ?_
    claims := ?_
    claimed := ?_
    numbered := owned.numbered_append device
    older := owned.older_append device
    exclusive := ?_ }
  · have held := (entries.map fun entry => BusInterface.handle entry.2).append_right
      (session.devices.entries.map Prod.snd)
    exact (List.perm_append_singleton _ _).trans ((owned.handles.cons _).trans held.symm)
  · have held := entries.map fun entry => Bus.claimOf (BusInterface.handle entry.2)
    exact (List.perm_append_singleton _ _).trans ((owned.claims.cons _).trans held.symm)
  · intro entry member
    rcases List.mem_cons.mp (entries.subset member) with rfl | earlier
    · exact ⟨rfl, rfl⟩
    · exact owned.claimed entry earlier
  · simp only [Bus.claimedNew, List.map_append, List.map_singleton]
    rw [List.nodup_append]
    refine ⟨owned.exclusive, List.nodup_singleton _, ?_⟩
    intro other member newest newestMember same
    rw [same, List.mem_singleton.mp newestMember] at member
    exact unclaimed member

theorem addDevice (owned : Owned session) (device : Nat)
    (free : session.devices.get? session.devices.next = none) :
    Owned { session with
      host := session.host.opened device
      devices := (session.devices.insert (session.host.nextOn device)).2 } := by
  have entries := HandleTable.entries_insert free (session.host.nextOn device)
  refine {
    handles := ?_
    claims := owned.claims
    claimed := owned.claimed
    numbered := owned.numbered_append device
    older := owned.older_append device
    exclusive := owned.exclusive }
  have held := (entries.map Prod.snd).append_left
    (session.interfaces.entries.map fun entry => BusInterface.handle entry.2)
  exact (List.perm_append_singleton _ _).trans
    ((owned.handles.cons _).trans (List.perm_middle.symm.trans held.symm))

end Owned

theorem Dealing.owned {session after : Session Bus} {result : Except WordFault Unit}
    (dealing : Dealing session result after) (owned : Owned session) :
    Owned after := by
  cases dealing with
  | quiet opens closes => exact owned.of_same rfl rfl rfl rfl rfl
  | undone opens few =>
      refine { owned with older := ?_ }
      intro handle member
      exact Nat.lt_succ_of_lt (owned.older handle member)
  | interfaceAdded opens unheld free =>
      rename_i machine device pipes
      exact (owned.addInterface pipes (owned.notMem_of_free unheld) free).of_same rfl rfl
        rfl rfl rfl
  | interfaceReplaced opens unheld live opensNone closesOne =>
      rename_i machine device pipes calls displaced
      -- It comes to the same as dropping the displaced entry first and adding the new one then.
      have apart := owned.number_ne (owned.mem_handles_of_interface live)
      have unclaimed : device ∉
          (session.host.without displaced.handle).claims.map Claim.device := fun member =>
        owned.notMem_of_free unheld ((List.filter_sublist.map Claim.device).subset member)
      have added := (owned.dropInterface live).addInterface pipes unclaimed (by simp)
      refine added.of_same ?_ ?_ rfl ?_ rfl
      · simp [Bus.claimedNew, Bus.recordAll, Bus.without, Bus.nextOn, apart]
      · simp [Bus.claimedNew, Bus.recordAll, Bus.without, Bus.nextOn, Bus.claimOf, apart]
      · exact (HandleTable.entries_insert_erase _ _).symm
  | deviceAdded opens free =>
      rename_i machine device
      exact (owned.addDevice device free).of_same rfl rfl rfl rfl rfl
  | deviceReplaced opens live =>
      rename_i machine device displaced
      have apart := owned.number_ne (owned.mem_handles_of_device live)
      have added := (owned.dropDevice live).addDevice device (by simp)
      refine added.of_same ?_ rfl rfl rfl ?_
      · simp [Bus.opened, Bus.recordAll, Bus.without, Bus.nextOn, apart]
      · exact (HandleTable.entries_insert_erase _ _).symm
  | interfaceDropped live => exact (owned.dropInterface live).of_same rfl rfl rfl rfl rfl
  | deviceDropped live => exact (owned.dropDevice live).of_same rfl rfl rfl rfl rfl

end Session

end UsbHost
