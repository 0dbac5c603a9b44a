import UsbHost.Proofs.Bus.Outcome

/-!
The pipes of a kept interface are those of the device that it is on. They were read off the
descriptors when the interface was found, and neither a word nor a change of the host touches a
descriptor.
-/

namespace UsbHost

namespace Bus

theorem pipes_modifyDevice {device : Nat} {change : BusDevice → BusDevice} {bus : Bus}
    (keeps : ∀ found, bus.devices[device]? = some found → (change found).pipes = found.pipes) :
    (bus.modifyDevice device change).devices.map BusDevice.pipes =
      bus.devices.map BusDevice.pipes :=
  map_modify_of_keeps BusDevice.pipes bus.devices device change keeps

theorem pipes_change (change : BusChange) (bus : Bus) :
    (ChangingHost.change change bus).devices.map BusDevice.pipes =
      bus.devices.map BusDevice.pipes := by
  cases change with
  | setListCode code => rfl
  | setCode device point code => exact pipes_modifyDevice fun _ _ => rfl
  | addScript device script => exact pipes_modifyDevice fun _ _ => rfl

theorem pipes_takeScript (device : Nat) (endpoint : Option UInt8) (bus : Bus) :
    (bus.takeScript device endpoint).2.devices.map BusDevice.pipes =
      bus.devices.map BusDevice.pipes := by
  unfold takeScript
  cases there : bus.devices[device]? with
  | none => rfl
  | some found =>
      refine pipes_modifyDevice ?_
      intro other otherThere
      cases there.symm.trans otherThere
      rfl

theorem pipes_control (handle : BusHandle) (setup : Setup) (timeout : Nat) (data : Bytes)
    (bus : Bus) :
    (bus.control handle setup timeout data).2.devices.map BusDevice.pipes =
      bus.devices.map BusDevice.pipes :=
  pipes_takeScript handle.device none (bus.record _)

theorem pipes_transfer (mode : TransferMode) (handle : BusHandle) (endpoint : UInt8)
    (timeout : Nat) (data : Bytes) (bus : Bus) :
    (bus.transfer mode handle endpoint timeout data).2.devices.map BusDevice.pipes =
      bus.devices.map BusDevice.pipes := by
  unfold transfer
  simp only
  generalize (if endpoint &&& 0x80 != 0 then [] else data.take _) = sent
  split
  · rfl
  · exact pipes_takeScript handle.device (some endpoint) (bus.record _)

theorem pipes_controlRequest (interface : BusInterface) (setup : Setup) (buffer : Bytes)
    (bus : Bus) :
    (Access.control (σ := Bus) interface setup buffer bus).2.devices.map BusDevice.pipes =
      bus.devices.map BusDevice.pipes := by
  unfold Access.control Access.onDataStage
  by_cases short : buffer.length < setup.length.toNat
  · rw [if_pos short]
  · rw [if_neg short]
    exact pipes_control interface.handle setup Timeouts.control.completion _ bus

theorem pipes_request (device : BusHandle) (setup : Setup) (buffer : Bytes) (bus : Bus) :
    (Access.request (σ := Bus) device setup buffer bus).2.devices.map BusDevice.pipes =
      bus.devices.map BusDevice.pipes := by
  unfold Access.request Access.onDataStage
  by_cases short : buffer.length < setup.length.toNat
  · rw [if_pos short]
  · rw [if_neg short]
    exact pipes_control device setup Timeouts.unlimited _ bus

theorem pipes_read (interface : BusInterface) (pipe : UInt8) (buffer : Bytes) (bus : Bus) :
    (Access.read (σ := Bus) interface pipe buffer bus).2.devices.map BusDevice.pipes =
      bus.devices.map BusDevice.pipes := by
  unfold Access.read
  simp only [NativeLayer.readPipe, readPipe]
  cases route interface pipe .input with
  | error fault => rfl
  | ok way => exact pipes_transfer way.1 interface.handle way.2 _ buffer bus

theorem pipes_write (interface : BusInterface) (pipe : UInt8) (data : Bytes) (bus : Bus) :
    (Access.write (σ := Bus) interface pipe data bus).2.devices.map BusDevice.pipes =
      bus.devices.map BusDevice.pipes := by
  unfold Access.write
  simp only [NativeLayer.writePipe, writePipe]
  cases route interface pipe .output with
  | error fault => rfl
  | ok way =>
      have same := pipes_transfer way.1 interface.handle way.2 Timeouts.pipe.completion data bus
      rcases moved : bus.transfer way.1 interface.handle way.2 Timeouts.pipe.completion data with
        ⟨⟨reply, left⟩, after⟩
      rw [moved] at same
      cases reply with
      | error fault => simpa only [moved] using same
      | ok count => simpa only [moved] using same

theorem pipes_of_called {α : Type} {ended : α × Bus} {answer : α} {bus host : Bus}
    (called : ended = (answer, host))
    (same : ended.2.devices.map BusDevice.pipes = bus.devices.map BusDevice.pipes) :
    host.devices.map BusDevice.pipes = bus.devices.map BusDevice.pipes := by
  rwa [called] at same

theorem releaseInterface_same (interface : BusInterface) (bus : Bus) :
    (releaseInterface interface bus).devices = bus.devices ∧
      (releaseInterface interface bus).listCode = bus.listCode := by
  obtain ⟨calls, -, -, released⟩ := releaseInterface_cases interface bus
  rw [released]
  exact ⟨rfl, rfl⟩

end Bus

namespace Session

def HasPipes (session : Session Bus) : Prop :=
  ∀ handle (interface : BusInterface), session.interfaces.get? handle = some interface →
    ∃ known, session.host.devices[interface.handle.device]? = some known ∧
      interface.pipes = known.pipes

theorem dropDisplaced_same {α : Type} (drop : α → Bus → Bus) (table : HandleTable α) (bus : Bus)
    (same : ∀ displaced, (drop displaced bus).devices = bus.devices ∧
      (drop displaced bus).listCode = bus.listCode) :
    (dropDisplaced drop table bus).devices = bus.devices ∧
      (dropDisplaced drop table bus).listCode = bus.listCode := by
  unfold dropDisplaced
  cases table.get? table.next with
  | none => exact ⟨rfl, rfl⟩
  | some displaced => exact same displaced

theorem hasPipes_iff {session : Session Bus} :
    session.HasPipes ↔ ∀ handle (interface : BusInterface),
      session.interfaces.get? handle = some interface →
        (session.host.devices.map BusDevice.pipes)[interface.handle.device]? =
          some interface.pipes := by
  refine forall_congr' fun handle => forall_congr' fun interface => ?_
  rw [List.getElem?_map, Option.map_eq_some_iff]
  refine imp_congr_right fun _ => exists_congr fun known => and_congr_right fun _ => eq_comm

theorem HasPipes.of_entries {session after : Session Bus} (has : session.HasPipes)
    (pipes : after.host.devices.map BusDevice.pipes = session.host.devices.map BusDevice.pipes)
    (entries : ∀ handle (interface : BusInterface),
      after.interfaces.get? handle = some interface →
        session.interfaces.get? handle = some interface ∨
          (session.host.devices.map BusDevice.pipes)[interface.handle.device]? =
            some interface.pipes) : after.HasPipes := by
  rw [hasPipes_iff] at has ⊢
  intro handle interface live
  rw [pipes]
  rcases entries handle interface live with earlier | described
  · exact has handle interface earlier
  · exact described

end Session

open Session in
theorem WordEnding.hasPipes {session after : Session Bus} {word : Word}
    {result : Except WordFault Unit} (ending : WordEnding session word result after)
    (owned : Owned session) (has : session.HasPipes) : after.HasPipes := by
  have kept {machine : Machine} {host : Bus} {devices : HandleTable BusHandle}
      (same : host.devices.map BusDevice.pipes = session.host.devices.map BusDevice.pipes) :
      HasPipes { session with machine, host, devices } :=
    has.of_entries same fun handle interface live => Or.inl live
  cases ending with
  | refused | unknown | outside => exact kept rfl
  | interfaceFailed taken called | interfaceAbsent taken called =>
      have search := Bus.findInterface_searches owned.fresh called
      generalize session.host.lookup session.host.holds _ _ = looked at search
      cases search
      exact kept rfl
  | interfaceFound taken called =>
      have search := Bus.findInterface_searches owned.fresh called
      generalize session.host.lookup session.host.holds _ _ = looked at search
      cases search with
      | found there =>
          rename_i device known
          have dropped := (dropDisplaced_same NativeLayer.dropInterface session.interfaces
            (session.host.claimedNew device) fun displaced =>
              Bus.releaseInterface_same displaced _).1
          refine has.of_entries (congrArg (List.map BusDevice.pipes) dropped) ?_
          intro handle interface live
          rw [HandleTable.get?_insert] at live
          split at live
          · cases live
            exact Or.inr (by simp [Bus.nextOn, there])
          · exact Or.inl live
  | interfaceKept taken live called =>
      cases Bus.closeInterface_close called
      exact kept rfl
  | interfaceClosed taken live called =>
      cases Bus.closeInterface_close called
      exact has.of_entries rfl fun handle interface still =>
        Or.inl (HandleTable.get?_of_erase still)
  | controlled taken live granted called =>
      exact kept (Bus.pipes_of_called called (Bus.pipes_controlRequest _ _ _ _))
  | described taken live called =>
      rw [(Bus.pipeProperties_answer called).1]
      exact kept rfl
  | readFrom taken live granted called =>
      exact kept (Bus.pipes_of_called called (Bus.pipes_read _ _ _ _))
  | writtenTo taken live granted called =>
      exact kept (Bus.pipes_of_called called (Bus.pipes_write _ _ _ _))
  | deviceFailed taken called | deviceAbsent taken called =>
      cases Bus.findDevice_search called
      all_goals exact kept rfl
  | deviceFound taken called =>
      cases Bus.findDevice_search called with
      | found opens =>
          rename_i device
          have dropped := (dropDisplaced_same NativeLayer.dropDevice session.devices
            (session.host.opened device) fun displaced => ⟨rfl, rfl⟩).1
          exact kept (congrArg (List.map BusDevice.pipes) dropped)
  | deviceClosed taken live => exact kept rfl
  | requested taken live granted called =>
      exact kept (Bus.pipes_of_called called (Bus.pipes_request _ _ _ _))

namespace Session

theorem hasPipes_apply {session : Session Bus} (event : Event Bus) (owned : Owned session)
    (has : session.HasPipes) : (session.apply event).HasPipes := by
  cases event with
  | word word => exact (run_ended word session).hasPipes owned has
  | machine machine => exact has
  | change change =>
      exact has.of_entries (Bus.pipes_change change session.host) fun handle interface live =>
        Or.inl live

theorem hasPipes (devices : List BusDevice) (machine : Machine) (events : List (Event Bus)) :
    ((start ({ devices } : Bus) machine).advance events).HasPipes := by
  have both : Owned ((start ({ devices } : Bus) machine).advance events) ∧
      ((start ({ devices } : Bus) machine).advance events).HasPipes := by
    refine advance_keeps (fun session => Owned session ∧ session.HasPipes) ?_ events _
      ⟨.start devices machine, ?_⟩
    · rintro event session ⟨owned, has⟩
      exact ⟨owned_apply event session owned, hasPipes_apply event owned has⟩
    · intro handle interface live
      cases live
  exact both.2

end Session

end UsbHost
