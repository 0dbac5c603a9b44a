import UsbHost.Proofs.Bus.Ledger
import UsbHost.Proofs.Bus.Lookup

/-!
How words end on a bus, in every state that a run can reach. The kept interfaces and the codes of
the devices decide it; and since every kept interface holds the claim on its device, no two of them
are on one device.
-/

namespace UsbHost

namespace Access

theorem step?_of_atStep {α : Type} {failure : Failure} {step : NativeStep}
    {answer : Except NativeFault α} (failed : atStep step answer = .error failure) :
    failure.step? = some step := by
  cases answer with
  | error cause =>
      cases failed
      rfl
  | ok value => cases failed

theorem onDataStage_step {σ : Type} {failure : Failure} {length : Nat} {buffer data : Bytes}
    {host after : σ} {step : NativeStep} {request : Bytes → σ → (Except Failure Nat × Bytes) × σ}
    (called : onDataStage length buffer host request = ((.error failure, data), after))
    (asked : ∀ stage data after, request stage host = ((.error failure, data), after) →
      failure.step? = some step) : failure.step? = some step ∨ failure.step? = none := by
  unfold onDataStage at called
  split at called
  · cases called
    exact Or.inr rfl
  · rcases answered : request (buffer.take length) host with ⟨⟨answer, stage⟩, reached⟩
    simp only [answered] at called
    cases called
    exact Or.inl (asked _ _ _ answered)

variable {σ : Type} [NativeLayer σ] {failure : Failure}

theorem control_step {interface : NativeLayer.Interface σ} {setup : Setup} {buffer data : Bytes}
    {host after : σ}
    (called : control interface setup buffer host = ((.error failure, data), after)) :
    failure.step? = some .controlRequest ∨ failure.step? = none := by
  refine onDataStage_step called ?_
  intro stage data after answered
  exact step?_of_atStep (congrArg (fun ending => ending.1.1) answered)

theorem request_step {device : NativeLayer.Device σ} {setup : Setup} {buffer data : Bytes}
    {host after : σ}
    (called : request device setup buffer host = ((.error failure, data), after)) :
    failure.step? = some .deviceRequest ∨ failure.step? = none := by
  unfold request at called
  split at called
  rename_i answer stage reached staged
  cases answer with
  | ok count => cases called
  | error earlier =>
      cases called
      refine onDataStage_step staged ?_
      intro stage data after answered
      exact step?_of_atStep (congrArg (fun ending => ending.1.1) answered)

end Access

namespace Session

theorem not_queried {session after : Session Bus} {word : Word} {failure : Failure}
    (fresh : session.host.IsFresh)
    (ending : WordEnding session word (.error (.usb failure)) after) :
    failure.step? ≠ some .queryInterface := by
  generalize failed : (.error (.usb failure) : Except WordFault Unit) = result at ending
  cases ending with
  | refused faulty =>
      cases failed
      rcases Word.takeHandle_isPlain _ _ _ _ faulty with plain | ⟨argument, value, plain⟩
      · cases plain
      · cases plain
  | unknown | outside | interfaceAbsent | interfaceFound | interfaceClosed | deviceAbsent
  | deviceFound | deviceClosed => cases failed
  | interfaceFailed taken called =>
      rename_i operands stack earlier host
      cases failed
      have search := Bus.findInterface_searches fresh called
      generalize ends : session.host.lookup session.host.holds operands.vendorId
        operands.productId = looked at search
      cases search with
      | failed => rcases Bus.lookup_step ends with step | step | step <;> simp [step]
  | interfaceKept taken live called =>
      cases failed
      cases Bus.closeInterface_close called with
      | kept few => simp [Failure.step?]
  | deviceFailed taken called =>
      cases failed
      cases Bus.findDevice_search called with
      | unlisted => simp [Failure.step?]
      | unopened fails => simp [Failure.step?]
  | controlled taken live granted called =>
      cases eq_of_ended failed
      rcases Access.control_step called with step | step <;> simp [step]
  | requested taken live granted called =>
      cases eq_of_ended failed
      rcases Access.request_step called with step | step <;> simp [step]
  | described taken live called =>
      cases eq_of_ended failed
      simp [Access.step?_of_atStep (congrArg Prod.fst called)]
  | readFrom taken live granted called =>
      cases eq_of_ended failed
      simp [Access.step?_of_atStep (congrArg (fun ending => ending.1.1) called)]
  | writtenTo taken live granted called =>
      cases eq_of_ended failed
      simp [Access.step?_of_atStep (congrArg Prod.fst called)]

def keeps (session : Session Bus) (device : Nat) : Bool :=
  session.interfaces.entries.any fun entry => (BusInterface.handle entry.2).device == device

theorem Owned.holds_eq {session : Session Bus} (owned : Owned session) :
    session.host.holds = session.keeps := by
  funext device
  rw [Bool.eq_iff_iff, Bus.holds, Bus.holder?, Option.isSome_map, List.find?_isSome, keeps,
    List.any_eq_true]
  constructor
  · rintro ⟨claim, member, same⟩
    obtain ⟨entry, entryMember, rfl⟩ := List.mem_map.mp (owned.claims.subset member)
    exact ⟨entry, entryMember, (Bool.and_eq_true _ _ ▸ same).1⟩
  · rintro ⟨entry, member, same⟩
    refine ⟨_, owned.claims.symm.subset (List.mem_map_of_mem member), ?_⟩
    simpa [Bus.claimOf] using same

/-- What giving up the entry that a found interface displaces logs. There is none before every
identifier has been handed out. -/
def displacedCalls (session : Session Bus) : Except Failure (Option Nat) → List BusCall
  | .ok (some _) =>
    match session.interfaces.get? session.interfaces.next with
    | none => []
    | some displaced =>
      [.release (BusInterface.handle displaced).device 0,
        .closeDevice (BusInterface.handle displaced).device]
  | .ok none | .error _ => []

theorem displacedCalls_eq_nil {session : Session Bus}
    (free : session.interfaces.get? session.interfaces.next = none)
    (answer : Except Failure (Option Nat)) : session.displacedCalls answer = [] := by
  cases answer with
  | error failure => rfl
  | ok device =>
      cases device with
      | none => rfl
      | some device => simp only [displacedCalls, free]

structure LooksUp (step : Step Bus) (stack : List Cell) (answer : Except Failure (Option Nat))
    (calls : List BusCall) : Prop where
  result : step.result = ended answer
  stack : step.after.machine.stack =
    pushed (lookupCells step.before.interfaces.next) answer ++ stack
  log : step.after.host.calls =
    step.before.host.calls ++ calls ++ step.before.displacedCalls answer
  added : ∀ device, answer = .ok (some device) → ∃ interface : BusInterface,
    step.after.interfaces = (step.before.interfaces.insert interface).2 ∧
      interface.handle.device = device
  unchanged : (∀ device, answer ≠ .ok (some device)) →
    step.after.interfaces = step.before.interfaces

theorem Owned.exists_interface {session : Session Bus} (owned : Owned session) {handle : Cell}
    {interface : BusInterface} (live : session.interfaces.get? handle = some interface) :
    ∃ native pipes, interface = ⟨native, 0, pipes, true⟩ := by
  obtain ⟨native, number, pipes, isClaimed⟩ := interface
  obtain ⟨rfl, rfl⟩ := owned.claimed _ (HandleTable.mem_of_get? live)
  exact ⟨native, pipes, rfl⟩

theorem dropDisplaced_calls {session : Session Bus} (owned : Owned session) (host : Bus)
    (device : Nat) :
    (dropDisplaced NativeLayer.dropInterface session.interfaces host).calls =
      host.calls ++ session.displacedCalls (.ok (some device)) := by
  unfold dropDisplaced displacedCalls
  cases live : session.interfaces.get? session.interfaces.next with
  | none => exact (List.append_nil _).symm
  | some displaced =>
      obtain ⟨native, pipes, rfl⟩ := owned.exists_interface live
      exact congrArg Bus.calls (Bus.closeDevice_release native 0 host)

theorem ending_looksUp {session after : Session Bus} {result : Except WordFault Unit}
    (ending : WordEnding session .findInterface result after) (owned : Owned session)
    {operands : FindOperands} {stack : List Cell}
    (taken : FindOperands.take session.machine.stack = .ok operands stack) :
    LooksUp ⟨.findInterface, session, result, after⟩ stack
      (session.host.lookup session.keeps operands.vendorId operands.productId).1
      (session.host.lookup session.keeps operands.vendorId operands.productId).2 := by
  rw [← owned.holds_eq]
  cases ending with
  | refused faulty =>
      simp only [Word.takeHandle, Functor.map, EStateM.map, taken] at faulty
      cases faulty
  | unknown takes uses | outside takes uses => cases uses
  | interfaceFailed takes called =>
      cases taken.symm.trans takes
      have search := Bus.findInterface_searches owned.fresh called
      generalize session.host.lookup session.host.holds operands.vendorId
        operands.productId = looked at search ⊢
      cases search with
      | failed => exact ⟨rfl, rfl, (List.append_nil _).symm, by simp, fun _ => rfl⟩
  | interfaceAbsent takes called =>
      cases taken.symm.trans takes
      have search := Bus.findInterface_searches owned.fresh called
      generalize session.host.lookup session.host.holds operands.vendorId
        operands.productId = looked at search ⊢
      cases search with
      | absent => exact ⟨rfl, rfl, by simp [displacedCalls], by simp, fun _ => rfl⟩
  | interfaceFound takes called =>
      cases taken.symm.trans takes
      have search := Bus.findInterface_searches owned.fresh called
      generalize session.host.lookup session.host.holds operands.vendorId
        operands.productId = looked at search ⊢
      cases search with
      | found there =>
          rename_i device known
          refine ⟨rfl, rfl, dropDisplaced_calls owned _ device, ?_, ?_⟩
          · rintro other same
            cases same
            exact ⟨_, rfl, rfl⟩
          · intro absent
            exact absurd rfl (absent device)

structure Closes (step : Step Bus) (handle : Cell) (interface : BusInterface) (stack : List Cell)
    (answer : Except Failure Unit) (calls : List BusCall) : Prop where
  result : step.result = ended answer
  stack : step.after.machine.stack = stack
  log : step.after.host.calls = step.before.host.calls ++ calls
  entry : step.after.interfaces.get? handle =
    match answer with
    | .error _ => some interface
    | .ok () => none

theorem closeInterface_live {session : Session Bus} {handle : Cell} {stack : List Cell}
    {interface : BusInterface} (taken : session.machine.stack = handle :: stack)
    (live : session.interfaces.get? handle = some interface) :
    session.closeInterface =
      match Access.closeInterface (σ := Bus) interface session.host with
      | (.error failure, host) =>
        (.error (.usb failure), { session.withStack stack with host })
      | (.ok (), host) =>
        (.ok (), { session.withStack stack with
          host, interfaces := session.interfaces.erase handle }) := by
  have back := HandleTable.put_erase live
  simp only [closeInterface, withOperands, taken, Take.cell, withInterface, live, back]
  split
  · rename_i closed
    simp only [closed, withStack]
  · rename_i closed
    simp only [closed, withStack]

theorem step_closes {session : Session Bus} (owned : Owned session) {handle : Cell}
    {stack : List Cell} {interface : BusInterface}
    (taken : session.machine.stack = handle :: stack)
    (live : session.interfaces.get? handle = some interface) :
    Closes (session.step .closeInterface) handle interface stack
      (session.host.closing interface.handle.device).1
      (session.host.closing interface.handle.device).2 := by
  have ran : session.run .closeInterface = _ := closeInterface_live taken live
  have holder := owned.holder live
  obtain ⟨native, pipes, rfl⟩ := owned.exists_interface live
  rcases called : Access.closeInterface (σ := Bus) (⟨native, 0, pipes, true⟩ : BusInterface)
    session.host with ⟨answer, host⟩
  obtain ⟨same, logged⟩ := Bus.closeInterface_closes holder called
  simp only [called] at ran
  rw [← same, step, ran]
  cases answer with
  | error failure => exact ⟨rfl, rfl, logged, live⟩
  | ok closed => exact ⟨rfl, rfl, logged, by simp⟩

theorem Owned.eq_of_device_eq {session : Session Bus} (owned : Owned session) {first second : Cell}
    {interface other : BusInterface} (live : session.interfaces.get? first = some interface)
    (otherLive : session.interfaces.get? second = some other)
    (same : interface.handle.device = other.handle.device) : first = second := by
  have distinct : (session.interfaces.entries.map fun entry =>
      (BusInterface.handle entry.2).device).Nodup := by
    have claims := (owned.claims.map Claim.device).nodup_iff.mp owned.exclusive
    rwa [heldClaims, List.map_map] at claims
  have entries := List.inj_on_of_nodup_map distinct (HandleTable.mem_of_get? live)
    (HandleTable.mem_of_get? otherLive) same
  exact congrArg Prod.fst entries

structure EndsExactly (session : Session Bus) (history : List (Step Bus)) : Prop where
  lookup : ∀ operands stack, FindOperands.take session.machine.stack = .ok operands stack →
    LooksUp (session.step .findInterface) stack
      (session.host.lookup session.keeps operands.vendorId operands.productId).1
      (session.host.lookup session.keeps operands.vendorId operands.productId).2
  close : ∀ handle stack (interface : BusInterface), session.machine.stack = handle :: stack →
    session.interfaces.get? handle = some interface →
    Closes (session.step .closeInterface) handle interface stack
      (session.host.closing interface.handle.device).1
      (session.host.closing interface.handle.device).2
  neverQueried : ∀ word cause,
    (session.run word).1 ≠ .error (.usb (.native .queryInterface cause))
  exclusive : ∀ first second (interface other : BusInterface),
    session.interfaces.get? first = some interface →
    session.interfaces.get? second = some other →
    interface.handle.device = other.handle.device → first = second
  undisplaced : (issued .interface history).length < 2 ^ 64 →
    ∀ answer, session.displacedCalls answer = []

/-- In every state that a run on a bus can reach, with any codes set on the way, lookups and closes
of interfaces end exactly. -/
theorem bus_ends_exactly (devices : List BusDevice) (machine : Machine)
    (events : List (Event Bus)) :
    EndsExactly ((start ({ devices } : Bus) machine).advance events)
      ((start ({ devices } : Bus) machine).history events) := by
  have kept := owned devices machine events
  have accounts := accounted .interface ({ devices } : Bus) machine events
  generalize (start ({ devices } : Bus) machine).advance events = session at kept accounts ⊢
  refine ⟨?_, ?_, ?_, ?_, ?_⟩
  · intro operands stack taken
    exact ending_looksUp (run_ended .findInterface session) kept taken
  · intro handle stack interface taken live
    exact step_closes kept taken live
  · intro word cause failed
    have ending := run_ended word session
    rw [failed] at ending
    exact not_queried kept.fresh ending rfl
  · intro first second interface other live otherLive same
    exact kept.eq_of_device_eq live otherLive same
  · intro room answer
    have free := accounts.notHeld_next room
    rw [object?, Option.map_eq_none_iff] at free
    exact displacedCalls_eq_nil free answer

example : ((start ({ devices := [{}] } : Bus) {}).history
    [.machine { stack := [0x5740, 0x0483] }, .word .findInterface,
      .machine { stack := [0x5740, 0x0483] }, .word .findInterface,
      .machine { stack := [1] }, .word .closeInterface,
      .machine { stack := [0x5740, 0x0483] }, .word .findInterface]).map
        (fun step => (step.result, step.after.machine.stack)) =
    [(.ok (), [-1, 1]), (.error (.usb (.native .interfaceOpen .busy)), []), (.ok (), []),
      (.ok (), [-1, 2])] := by decide

end Session

end UsbHost
