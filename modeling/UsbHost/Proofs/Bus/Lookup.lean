import UsbHost.Proofs.Bus.Effect

/-!
How lookups and closes end on a bus, read off the result codes of the devices and the interfaces
that are held. What a query reads was checked when its device was matched, so no query fails; and a
kept interface always holds its claim, so a close fails only where the device is told to.
-/

namespace UsbHost

theorem BusFault.ofCode_eq_notSupported {code : Int} :
    BusFault.ofCode code = .notSupported ↔ code = -12 := by
  constructor
  · intro same
    unfold BusFault.ofCode at same
    split at same <;> first | rfl | cases same
  · rintro rfl
    rfl

namespace BusDevice

/-- The pipes of interface zero: the endpoints of its first alternate setting numbered zero. -/
def pipes (device : BusDevice) : PipeTable where
  controlPacketSize := device.controlPacketSize.toUInt16
  endpoints :=
    match device.interfaces.find? fun interface => interface.number == 0 with
    | some interface => interface.endpoints.map EndpointDescriptor.toPipe
    | none => []

theorem isMatch_interface {device : BusDevice} {vendorId productId : UInt16}
    (matched : device.isMatch (.interface vendorId productId) = true) :
    device.code .descriptor = 0 ∧ device.code .activeConfiguration = 0 ∧
      device.hasInterface 0 = true := by
  simp only [isMatch, Criteria.interface, Bool.and_eq_true, beq_iff_eq, Option.all_some] at matched
  exact ⟨matched.1.1, matched.2.1.1, matched.2.2⟩

end BusDevice

namespace Bus

def faultAt (device : Nat) (point : FaultPoint) (bus : Bus) : NativeFault :=
  (BusFault.ofCode (bus.codeAt device point)).toNative

theorem check_eq_error {code : Int} (fails : code ≠ 0) :
    BusFault.check code = .error (BusFault.ofCode code) := if_neg fails

/-- How looking up interface zero of a device ends, and the calls that it logs; `held` says on which
devices an interface is held. Not being able to detach any kernel driver is no obstacle. -/
def lookup (held : Nat → Bool) (vendorId productId : UInt16) (bus : Bus) :
    Except Failure (Option Nat) × List BusCall :=
  if bus.listCode < 0 then
    (.error (.native .serviceMatching (BusFault.ofCode bus.listCode).toNative), [])
  else
    match bus.devices.findIdx? (BusDevice.isMatch (.interface vendorId productId)) with
    | none => (.ok none, [])
    | some device =>
      if bus.codeAt device .openDevice ≠ 0 then
        (.error (.native .createPlugin (bus.faultAt device .openDevice)), [.openDevice device])
      else if bus.codeAt device .autoDetach ≠ 0 ∧ bus.codeAt device .autoDetach ≠ -12 then
        (.error (.native .interfaceOpen (bus.faultAt device .autoDetach)),
          [.openDevice device, .autoDetach device, .closeDevice device])
      else if bus.codeAt device .claim ≠ 0 then
        (.error (.native .interfaceOpen (bus.faultAt device .claim)),
          [.openDevice device, .autoDetach device, .claim device 0, .closeDevice device])
      else if held device then
        (.error (.native .interfaceOpen .busy),
          [.openDevice device, .autoDetach device, .claim device 0, .closeDevice device])
      else (.ok (some device), [.openDevice device, .autoDetach device, .claim device 0])

theorem readInterface_eq {bus : Bus} {device : Nat} {known : BusDevice} (handle : BusHandle)
    (there : bus.devices[device]? = some known) (described : known.code .descriptor = 0)
    (configured : known.code .activeConfiguration = 0) (has : known.hasInterface 0 = true) :
    bus.readInterface device 0 handle = .ok ⟨handle, 0, known.pipes, false⟩ := by
  obtain ⟨interface, found⟩ := Option.isSome_iff_exists.mp
    (List.find?_isSome.mpr (List.any_eq_true.mp has))
  have codes : ∀ point, bus.codeAt device point = known.code point := by
    intro point
    rw [codeAt, there]
  simp only [readInterface, codes, described, configured, check_eq_ok.mpr, native, there, found,
    BusDevice.pipes]

theorem claim_opened_eq {bus : Bus} (fresh : bus.IsFresh) {device : Nat} {known : BusDevice}
    (there : bus.devices[device]? = some known) (has : known.hasInterface 0 = true)
    (tried : List BusCall) :
    ((bus.opened device).recordAll tried).claim (bus.nextOn device) 0 =
      if bus.codeAt device .claim ≠ 0 then
        (.error (BusFault.ofCode (bus.codeAt device .claim)),
          (bus.opened device).recordAll (tried ++ [.claim device 0]))
      else if (bus.holder? device 0).isSome then
        (.error .busy, (bus.opened device).recordAll (tried ++ [.claim device 0]))
      else
        (.ok (), { (bus.opened device).recordAll (tried ++ [.claim device 0]) with
          claims := bus.claims ++ [claimOf (bus.nextOn device)] }) := by
  have logged : ((bus.opened device).recordAll tried).record (.claim device 0) =
      (bus.opened device).recordAll (tried ++ [.claim device 0]) := by
    simp [recordAll, record]
  have holder : ((bus.opened device).recordAll (tried ++ [.claim device 0])).holder? device 0 =
      bus.holder? device 0 := rfl
  have code : ((bus.opened device).recordAll (tried ++ [.claim device 0])).codeAt device .claim =
      bus.codeAt device .claim := rfl
  have here : ((bus.opened device).recordAll (tried ++ [.claim device 0])).devices[device]? =
      some known := there
  unfold claim
  simp only [nextOn, logged, holder, code, here]
  by_cases fails : bus.codeAt device .claim ≠ 0
  · rw [if_pos fails, check_eq_error fails]
  · rw [if_neg fails, check_eq_ok.mpr (Decidable.not_not.mp fails)]
    simp only [Option.any_some, has, Bool.not_true, Bool.false_eq_true, if_false]
    cases held : bus.holder? device 0 with
    | none => rfl
    | some number =>
        have older := holder_lt fresh held
        have apart : number ≠ bus.nextHandle := by omega
        simp [apart]

def claiming (pipes : PipeTable) (device : Nat) (bus : Bus) :
    Except NativeFault BusInterface × Bus :=
  if bus.codeAt device .claim ≠ 0 then
    (.error (bus.faultAt device .claim),
      (bus.opened device).recordAll [.autoDetach device, .claim device 0])
  else if (bus.holder? device 0).isSome then
    (.error .busy, (bus.opened device).recordAll [.autoDetach device, .claim device 0])
  else
    (.ok ⟨bus.nextOn device, 0, pipes, true⟩, bus.claimedNew device)

theorem claiming_eq {bus : Bus} (fresh : bus.IsFresh) {device : Nat} {known : BusDevice}
    (there : bus.devices[device]? = some known) (has : known.hasInterface 0 = true)
    (pipes : PipeTable) :
    (match ((bus.opened device).recordAll [.autoDetach device]).claim (bus.nextOn device) 0 with
      | (.error fault, after) => (.error fault.toNative, after)
      | (.ok (), after) => (.ok ⟨bus.nextOn device, 0, pipes, true⟩, after)) =
      bus.claiming pipes device := by
  rw [claim_opened_eq fresh there has [.autoDetach device]]
  unfold claiming
  by_cases fails : bus.codeAt device .claim ≠ 0
  · simp only [if_pos fails]
    rfl
  · simp only [if_neg fails]
    by_cases busy : (bus.holder? device 0).isSome = true
    · simp only [if_pos busy]
      rfl
    · simp only [if_neg busy, ← opened_claimed]
      rfl

theorem openInterface_eq {bus : Bus} (fresh : bus.IsFresh) {device : Nat} {known : BusDevice}
    (there : bus.devices[device]? = some known) (has : known.hasInterface 0 = true)
    (pipes : PipeTable) :
    openInterface ⟨bus.nextOn device, 0, pipes, false⟩ (bus.opened device) =
      if bus.codeAt device .autoDetach ≠ 0 ∧ bus.codeAt device .autoDetach ≠ -12 then
        (.error (bus.faultAt device .autoDetach),
          (bus.opened device).recordAll [.autoDetach device])
      else bus.claiming pipes device := by
  have detached : (bus.opened device).autoDetach (bus.nextOn device) =
      (BusFault.check (bus.codeAt device .autoDetach),
        (bus.opened device).recordAll [.autoDetach device]) := rfl
  have opens := claiming_eq fresh there has pipes
  unfold openInterface
  simp only [detached]
  split
  · rename_i succeeds
    have zero := check_eq_ok.mp succeeds
    rw [if_neg fun fails => fails.1 zero]
    exact opens
  · rename_i fails
    have unsupported : bus.codeAt device .autoDetach = -12 := by
      have failing := ne_zero_of_check fails
      rw [check_eq_error failing] at fails
      exact BusFault.ofCode_eq_notSupported.mp (Except.error.inj fails)
    rw [if_neg fun fails => fails.2 unsupported]
    exact opens
  · rename_i fault supported fails
    have failing := ne_zero_of_check fails
    rw [check_eq_error failing] at fails
    cases fails
    have other : bus.codeAt device .autoDetach ≠ -12 := by
      intro unsupported
      rw [unsupported] at supported
      exact supported rfl
    rw [if_pos ⟨failing, other⟩]
    rfl

theorem findIdx?_there {bus : Bus} {criteria : Criteria} {device : Nat}
    (first : bus.devices.findIdx? (BusDevice.isMatch criteria) = some device) :
    ∃ known, bus.devices[device]? = some known ∧ known.isMatch criteria = true := by
  obtain ⟨inside, matched, -⟩ := List.findIdx?_eq_some_iff_getElem.mp first
  exact ⟨bus.devices[device], List.getElem?_eq_getElem inside, matched⟩

theorem queryInterface_eq {bus : Bus} {device : Nat} {known : BusDevice}
    {vendorId productId : UInt16} (handle : BusHandle) (there : bus.devices[device]? = some known)
    (matched : known.isMatch (.interface vendorId productId) = true) :
    queryInterface ⟨device, .interface vendorId productId, .interface, some handle⟩ bus =
      ((.ok ⟨handle, 0, known.pipes, false⟩,
        ⟨device, .interface vendorId productId, .interface, none⟩), bus) := by
  obtain ⟨described, configured, has⟩ := BusDevice.isMatch_interface matched
  have taken : takeHandle .interface
      ⟨device, .interface vendorId productId, .interface, some handle⟩ =
        (.ok handle, ⟨device, .interface vendorId productId, .interface, none⟩) := rfl
  have zero : (Criteria.interface vendorId productId).interfaceNumber.getD 0 = 0 := rfl
  simp only [queryInterface, taken, zero, readInterface_eq handle there described configured has]

inductive Search (bus : Bus) : Except Failure (Option Nat) × List BusCall →
    Except Failure (Option BusInterface) → Bus → Prop
  | failed {failure calls nextHandle} :
      Search bus (.error failure, calls) (.error failure) { bus.recordAll calls with nextHandle }
  | absent : Search bus (.ok none, []) (.ok none) bus
  | found {device known} (there : bus.devices[device]? = some known) :
      Search bus (.ok (some device), [.openDevice device, .autoDetach device, .claim device 0])
        (.ok (some ⟨bus.nextOn device, 0, known.pipes, true⟩)) (bus.claimedNew device)

def holds (bus : Bus) (device : Nat) : Bool := (bus.holder? device 0).isSome

theorem findInterface_searches {vendorId productId : UInt16} {bus host : Bus}
    {answer : Except Failure (Option BusInterface)} (fresh : bus.IsFresh)
    (called : Access.findInterface vendorId productId bus = (answer, host)) :
    Search bus (bus.lookup bus.holds vendorId productId) answer host := by
  unfold Access.findInterface Access.resolve at called
  simp only [NativeLayer.matchService, NativeLayer.createPlugin, NativeLayer.queryInterface,
    NativeLayer.releasePlugin, NativeLayer.openInterface, NativeLayer.releaseInterface] at called
  unfold lookup
  by_cases unlisted : bus.listCode < 0
  · simp only [matchService, attached, if_pos unlisted, native] at called
    cases called
    rw [if_pos unlisted]
    have untouched (failure : Failure) := @Search.failed bus failure [] bus.nextHandle
    simp only [recordAll_nil] at untouched
    exact untouched _
  rw [if_neg unlisted]
  simp only [matchService, attached, if_neg unlisted, native] at called
  cases first : bus.devices.findIdx? (BusDevice.isMatch (.interface vendorId productId)) with
  | none =>
      simp only [first, Option.map_none] at called
      cases called
      exact .absent
  | some device =>
      obtain ⟨known, there, matched⟩ := findIdx?_there first
      have openedThere : (bus.opened device).devices[device]? = some known := there
      have has := (BusDevice.isMatch_interface matched).2.2
      have isInterface : (Criteria.interface vendorId productId).serviceClass = .interface := rfl
      simp only [first, Option.map_some, createPlugin_eq, isInterface] at called
      by_cases unopened : bus.codeAt device .openDevice ≠ 0
      · simp only [check_eq_error unopened] at called
        cases called
        simp only [if_pos unopened]
        exact @Search.failed bus _ _ bus.nextHandle
      simp only [check_eq_ok.mpr (Decidable.not_not.mp unopened),
        queryInterface_eq _ openedThere matched, releasePlugin,
        openInterface_eq fresh there has] at called
      simp only [if_neg unopened]
      by_cases undetached :
          bus.codeAt device .autoDetach ≠ 0 ∧ bus.codeAt device .autoDetach ≠ -12
      · simp only [if_pos undetached, releaseInterface_unclaimed,
          closeDevice_opened fresh] at called
        cases called
        simp only [if_pos undetached]
        exact .failed
      simp only [if_neg undetached, claiming] at called ⊢
      by_cases unclaimed : bus.codeAt device .claim ≠ 0
      · simp only [if_pos unclaimed, releaseInterface_unclaimed,
          closeDevice_opened fresh] at called
        cases called
        simp only [if_pos unclaimed]
        exact .failed
      simp only [if_neg unclaimed] at called ⊢
      by_cases busy : bus.holds device = true
      · have held : (bus.holder? device 0).isSome = true := busy
        simp only [if_pos held, releaseInterface_unclaimed, closeDevice_opened fresh] at called
        cases called
        simp only [if_pos busy]
        exact .failed
      · have free : ¬(bus.holder? device 0).isSome = true := busy
        simp only [if_neg free] at called
        cases called
        simp only [if_neg busy]
        exact .found there

theorem lookup_step {held : Nat → Bool} {vendorId productId : UInt16} {bus : Bus}
    {failure : Failure} {calls : List BusCall}
    (ends : bus.lookup held vendorId productId = (.error failure, calls)) :
    failure.step? = some .serviceMatching ∨ failure.step? = some .createPlugin ∨
      failure.step? = some .interfaceOpen := by
  unfold lookup at ends
  split at ends
  · cases ends
    exact Or.inl rfl
  split at ends
  · cases ends
  split at ends
  · cases ends
    exact Or.inr (Or.inl rfl)
  -- Detaching, claiming, and finding the interface held are three ways of not opening it.
  split at ends
  · cases ends
    exact Or.inr (Or.inr rfl)
  split at ends
  · cases ends
    exact Or.inr (Or.inr rfl)
  split at ends
  · cases ends
    exact Or.inr (Or.inr rfl)
  · cases ends

theorem lookup_claims {vendorId productId : UInt16} {bus : Bus} {device : Nat}
    {calls : List BusCall} (fresh : bus.IsFresh)
    (ends : bus.lookup bus.holds vendorId productId = (.ok (some device), calls)) :
    ((bus.opened device).recordAll [.autoDetach device]).claim (bus.nextOn device) 0 =
      (.ok (), bus.claimedNew device) := by
  unfold lookup at ends
  split at ends
  · cases ends
  split at ends
  · cases ends
  rename_i found first
  split at ends
  · cases ends
  split at ends
  · cases ends
  split at ends
  · cases ends
  rename_i claims
  split at ends
  · cases ends
  rename_i free
  cases ends
  obtain ⟨known, there, matched⟩ := findIdx?_there first
  have has := (BusDevice.isMatch_interface matched).2.2
  have unheld : ¬(bus.holder? device 0).isSome = true := free
  rw [claim_opened_eq fresh there has, if_neg claims, if_neg unheld]
  exact congrArg (Prod.mk _) (opened_claimed device bus)

def closing (device : Nat) (bus : Bus) : Except Failure Unit × List BusCall :=
  if bus.codeAt device .release ≠ 0 then
    (.error (.native .interfaceClose (bus.faultAt device .release)), [.release device 0])
  else (.ok (), [.release device 0, .closeDevice device])

theorem closeInterface_closes {bus host : Bus} {handle : BusHandle} {pipes : PipeTable}
    {answer : Except Failure Unit} (holder : bus.holder? handle.device 0 = some handle.number)
    (called : Access.closeInterface (σ := Bus) (⟨handle, 0, pipes, true⟩ : BusInterface) bus =
      (answer, host)) :
    answer = (bus.closing handle.device).1 ∧
      host.calls = bus.calls ++ (bus.closing handle.device).2 := by
  have code : (bus.record (.release handle.device 0)).codeAt handle.device .release =
      bus.codeAt handle.device .release := rfl
  have held : (bus.record (.release handle.device 0)).holder? handle.device 0 =
      some handle.number := holder
  unfold Access.closeInterface at called
  simp only [NativeLayer.closeInterface, NativeLayer.releaseInterface, closeInterface, if_true,
    release, code, held] at called
  unfold closing
  by_cases stuck : bus.codeAt handle.device .release ≠ 0
  · simp only [check_eq_error stuck] at called
    cases called
    simp only [if_pos stuck]
    exact ⟨rfl, rfl⟩
  · simp only [check_eq_ok.mpr (Decidable.not_not.mp stuck), releaseInterface_unclaimed] at called
    cases called
    rw [if_neg stuck]
    exact ⟨rfl, List.append_assoc _ _ _⟩

end Bus

end UsbHost
