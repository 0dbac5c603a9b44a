import UsbHost.Command.Program
import UsbHost.Proofs.Bus.Lookup
import UsbHost.Proofs.Bus.Ownership

/-!
Visits. A command goes to one device at most: it opens it, does what it came for, and closes it
again whatever happened in between. Whoever asks for an interface claims it first and releases it in
the end; whoever asks for the whole device leaves its interfaces alone.
-/

namespace UsbHost

theorem split_after {α : Type} {first rest earlier later : List α} {value : α}
    (split : first ++ rest = earlier ++ value :: later) (absent : value ∉ first) :
    ∃ between, earlier = first ++ between ∧ rest = between ++ value :: later := by
  rcases List.append_eq_append_iff.mp split with ⟨between, begins, ends⟩ | ⟨cut, begins, ends⟩
  · exact ⟨between, begins, ends⟩
  · cases cut with
    | nil => exact ⟨[], by simpa using begins.symm, ends.symm⟩
    | cons head cut =>
        cases ends
        exact absurd (begins ▸ List.mem_append_right _ List.mem_cons_self) absent

theorem split_before {α : Type} {second rest earlier later : List α} {value : α}
    (split : second ++ rest = earlier ++ value :: later) (absent : value ∉ rest) :
    ∃ between, second = earlier ++ value :: between ∧ later = between ++ rest := by
  rcases List.append_eq_append_iff.mp split with ⟨cut, begins, ends⟩ | ⟨cut, begins, ends⟩
  · exact absurd (ends ▸ List.mem_append_right _ List.mem_cons_self) absent
  · cases cut with
    | nil =>
        rw [List.nil_append] at ends
        exact absurd (ends ▸ List.mem_cons_self) absent
    | cons head between =>
        cases ends
        exact ⟨between, begins, rfl⟩

def Command.service? : Command → Option ServiceClass
  | list _ => none
  | probe _ _ | control _ _ _ | read _ _ _ | write _ _ _ => some .interface
  | request _ _ _ => some .device

namespace Bus

/-- A whole visit: the bus that it began on and the bus that it left. -/
inductive Visit (bus : Bus) : Option ServiceClass → Bus → Prop
  | away {service?} : Visit bus service? bus
  | unopened {service device} (fails : bus.codeAt device .openDevice ≠ 0) :
      Visit bus (some service) (bus.recordAll [.openDevice device])
  | undone {device tried} (opens : bus.codeAt device .openDevice = 0)
      (few : tried <+: [.autoDetach device, .claim device 0]) :
      Visit bus (some .interface)
        { bus.recordAll (.openDevice device :: (tried ++ [.closeDevice device])) with
          nextHandle := bus.nextHandle + 1 }
  | interface {device uses releases devices} (opens : bus.codeAt device .openDevice = 0)
      (claims : ((bus.opened device).recordAll [.autoDetach device]).claim (bus.nextOn device) 0 =
        (.ok (), bus.claimedNew device))
      (traffic : ∀ call ∈ uses, BusCall.traffic? call = some device)
      (few : releases <+: [.release device 0]) :
      Visit bus (some .interface)
        { bus.recordAll ([.openDevice device, .autoDetach device, .claim device 0] ++
            (uses ++ releases ++ [.release device 0, .closeDevice device])) with
          devices, nextHandle := bus.nextHandle + 1 }
  | device {device uses devices} (opens : bus.codeAt device .openDevice = 0)
      (traffic : ∀ call ∈ uses, BusCall.traffic? call = some device) :
      Visit bus (some .device)
        { bus.recordAll (.openDevice device :: (uses ++ [.closeDevice device])) with
          devices, nextHandle := bus.nextHandle + 1 }

theorem Traffic.calls {device : Nat} {bus host : Bus} (traffic : Traffic device bus host) :
    ∃ uses devices, host = { bus.recordAll uses with devices } ∧
      ∀ call ∈ uses, BusCall.traffic? call = some device := by
  cases traffic with
  | untouched => exact ⟨[], bus.devices, by simp, by simp⟩
  | called goes => exact ⟨_, _, rfl, by simpa using goes⟩

theorem without_claimed {bus : Bus} (fresh : bus.IsFresh) (device : Nat) (calls : List BusCall)
    (devices : List BusDevice) :
    without (bus.nextOn device) { (bus.claimedNew device).recordAll calls with devices } =
      { bus.recordAll ([.openDevice device, .autoDetach device, .claim device 0] ++ calls) with
        devices, nextHandle := bus.nextHandle + 1 } := by
  simp [without, claimedNew, recordAll, nextOn, claimOf, fresh.filter_handles, fresh.filter_claims]

theorem without_opened {bus : Bus} (fresh : bus.IsFresh) (device : Nat) (calls : List BusCall)
    (devices : List BusDevice) :
    without (bus.nextOn device) { (bus.opened device).recordAll calls with devices } =
      { bus.recordAll (.openDevice device :: calls) with
        devices, nextHandle := bus.nextHandle + 1 } := by
  simp [without, opened, recordAll, nextOn, fresh.filter_handles, fresh.filter_claims]

theorem recordAll_with (first second : List BusCall) (devices : List BusDevice) (bus : Bus) :
    recordAll second { bus.recordAll first with devices } =
      { bus.recordAll (first ++ second) with devices } := by
  simp [recordAll]

theorem findInterface_claims {vendorId productId : UInt16} {bus host : Bus} {device : Nat}
    {pipes : PipeTable} (fresh : bus.IsFresh)
    (called : Access.findInterface vendorId productId bus =
      (.ok (some (⟨bus.nextOn device, 0, pipes, true⟩ : BusInterface)), host)) :
    ((bus.opened device).recordAll [.autoDetach device]).claim (bus.nextOn device) 0 =
      (.ok (), bus.claimedNew device) := by
  have search := findInterface_searches fresh called
  generalize ends : bus.lookup bus.holds vendorId productId = looked at search
  cases search with
  | found there => exact lookup_claims fresh ends

end Bus

namespace Command

open Bus

theorem withInterface_visit {α : Type} {vendorId productId : UInt16}
    {operation : BusInterface → Bus → Except Failure α × Bus} {bus : Bus} (fresh : bus.IsFresh)
    (stays : ∀ interface host, Traffic interface.handle.device host (operation interface host).2) :
    Visit bus (some .interface) (withInterface vendorId productId operation bus).2 := by
  unfold withInterface
  rcases called : Access.findInterface (σ := Bus) vendorId productId bus with ⟨answer, host⟩
  cases findInterface_search fresh called with
  | unlisted | absent => exact .away
  | unopened fails => exact .unopened fails
  | undone opens few => exact .undone opens few
  | @found device pipes opens free =>
      have claims := findInterface_claims fresh called
      obtain ⟨uses, devices, used, traffic⟩ :=
        (stays ⟨bus.nextOn device, 0, pipes, true⟩ (bus.claimedNew device)).calls
      simp only
      rcases operated : operation ⟨bus.nextOn device, 0, pipes, true⟩ (bus.claimedNew device) with
        ⟨result, reached⟩
      rw [operated] at used
      subst used
      simp only
      rcases closed : Access.closeInterface (σ := Bus)
        (⟨bus.nextOn device, 0, pipes, true⟩ : BusInterface)
        { (bus.claimedNew device).recordAll uses with devices } with ⟨ending, left⟩
      cases closeInterface_close closed with
      | @kept fault calls few =>
          -- The interface is given up with its claim, which is released once more for that.
          have given := closeDevice_release (bus.nextOn device) 0
            { (bus.claimedNew device).recordAll (uses ++ calls) with devices }
          rw [recordAll_with, without_claimed fresh] at given
          simp only [recordAll_with, NativeLayer.dropInterface, releaseInterface, if_true, giveUp]
          rw [given]
          exact .interface opens claims traffic few
      | closed =>
          have visit := @Visit.interface bus device uses [] devices opens claims traffic
            List.nil_prefix
          rw [List.append_nil] at visit
          rw [recordAll_with, without_claimed fresh]
          exact visit

theorem withDevice_visit {α : Type} {vendorId productId : UInt16}
    {operation : BusHandle → Bus → Except Failure α × Bus} {bus : Bus} (fresh : bus.IsFresh)
    (stays : ∀ device host, Traffic device.device host (operation device host).2) :
    Visit bus (some .device) (withDevice vendorId productId operation bus).2 := by
  unfold withDevice
  rcases called : Access.findDevice (σ := Bus) vendorId productId bus with ⟨answer, host⟩
  cases findDevice_search called with
  | unlisted | absent => exact .away
  | unopened fails => exact .unopened fails
  | @found device opens =>
      obtain ⟨uses, devices, used, traffic⟩ := (stays (bus.nextOn device) (bus.opened device)).calls
      simp only
      rcases operated : operation (bus.nextOn device) (bus.opened device) with ⟨result, reached⟩
      rw [operated] at used
      subst used
      simp only [Access.closeDevice, NativeLayer.releaseDevice, giveUp, closeDevice_eq]
      rw [recordAll_with, without_opened fresh]
      exact .device opens traffic

theorem pipes_host (interface : BusInterface) (bus : Bus) :
    (Access.pipes (σ := Bus) interface bus).2 = bus := by
  have queried (pipes : List UInt8) :
      (Access.queryPipes (σ := Bus) interface pipes bus).2 = bus := by
    induction pipes with
    | nil => rfl
    | cons pipe rest ih =>
        rcases described : Access.pipeProperties (σ := Bus) interface pipe bus with ⟨answer, host⟩
        obtain ⟨rfl, -⟩ := pipeProperties_answer described
        cases answer with
        | error failure => simp only [Access.queryPipes, described]
        | ok first =>
            simp only [Access.queryPipes, described]
            exact ih
  simp only [Access.pipes, Access.pipeCount, NativeLayer.pipeCount, pipeCount]
  cases interface.pipes.count? with
  | none => rfl
  | some count => exact queried _

theorem listDevices_host (bus : Bus) : (Access.listDevices bus).2 = bus := by
  simp only [Access.listDevices, NativeLayer.listDevices, listDevices]
  cases native bus.attached with
  | error fault => rfl
  | ok devices => rfl

theorem onTarget_visit {target : Target} {config : Config} {bus : Bus} {service : ServiceClass}
    {next : UInt16 → UInt16 → Bus → Except RunFault String × Bus}
    (visits : ∀ vendorId productId, Visit bus (some service) (next vendorId productId bus).2) :
    Visit bus (some service) (onTarget target config bus next).2 := by
  unfold onTarget
  cases target.resolve config with
  | error fault => exact .away
  | ok ids => exact visits ids.1 ids.2

theorem perform_visit (command : Command) (config : Config) {bus : Bus} (fresh : bus.IsFresh) :
    Visit bus command.service? (command.perform config bus).2 := by
  cases command with
  | list isJson =>
      have untouched := listDevices_host bus
      simp only [perform]
      rw [untouched]
      exact .away
  | probe target isJson =>
      refine onTarget_visit ?_
      intro vendorId productId
      refine withInterface_visit fresh ?_
      intro interface host
      rw [pipes_host]
      exact .untouched
  | control target setup data =>
      refine onTarget_visit ?_
      intro vendorId productId
      cases dataStage setup data with
      | error fault => exact .away
      | ok buffer =>
          refine withInterface_visit fresh ?_
          intro interface host
          exact controlRequest_traffic interface setup buffer host
  | read target pipe size =>
      refine onTarget_visit ?_
      intro vendorId productId
      refine withInterface_visit fresh ?_
      intro interface host
      exact read_traffic interface pipe (Bytes.zeros size) host
  | write target pipe data =>
      refine onTarget_visit ?_
      intro vendorId productId
      cases HexData.read data with
      | error cause => exact .away
      | ok bytes =>
          refine withInterface_visit fresh ?_
          intro interface host
          exact write_traffic interface pipe bytes host
  | request target setup data =>
      refine onTarget_visit ?_
      intro vendorId productId
      cases dataStage setup data with
      | error fault => exact .away
      | ok buffer =>
          refine withDevice_visit fresh ?_
          intro device host
          exact request_traffic device setup buffer host

example :
    ((control (.ids 0x0483 0x5740) ⟨0x21, 0x22, 1, 0, 0⟩ none).perform {}
      ({ devices := [{ faults := [(.control, -9), (.release, -4)] }] } : Bus)).2.calls =
    [.openDevice 0, .autoDetach 0, .claim 0 0, .control 0 ⟨0x21, 0x22, 1, 0, 0⟩ 0 4000 [],
      .release 0 0, .release 0 0, .closeDevice 0] := by
  decide

end Command

open Bus

theorem CommandLine.run_visit (line : CommandLine) {world : World} (fresh : world.bus.IsFresh) :
    Visit world.bus (line.command.bind Command.service?) (line.run world).2.bus := by
  unfold run saveDefault
  split
  · simp only
    split <;> exact .away
  split
  · exact .away
  rename_i config loaded
  split
  · exact .away
  unfold runCommand
  cases line.command with
  | none => exact .away
  | some command =>
      simp only
      cases world.bus.start with
      | error cause => exact .away
      | ok started => exact command.perform_visit config fresh

namespace Program

def command? (arguments : List String) : Option Command :=
  match CommandLine.ofArguments arguments with
  | .ok line => line.command
  | .error _ => none

theorem run_visit (arguments : List String) {world : World} (fresh : world.bus.IsFresh) :
    Visit world.bus ((command? arguments).bind Command.service?) (run arguments world).2.bus := by
  unfold run command?
  cases read : CommandLine.ofArguments arguments with
  | error interruption =>
      cases interruption with
      | fault fault => exact .away
      | help | version => exact .away
  | ok line =>
      have visit := line.run_visit fresh
      simp only
      rcases ran : line.run world with ⟨answer, after⟩
      rw [ran] at visit
      cases answer with
      | ok output => exact visit
      | error fault => exact visit

end Program

namespace Bus

def openedIn (calls : List BusCall) (bus : Bus) : List Nat :=
  (calls.filterMap BusCall.opening?).filter fun device => bus.codeAt device .openDevice = 0

/-- A log in which one device at most is opened, and every device is closed once and only after it
was opened. -/
structure ClosesWhatItOpens (bus : Bus) (calls : List BusCall) : Prop where
  single : (calls.filterMap BusCall.opening?).length ≤ 1
  closed : calls.filterMap BusCall.closing? = bus.openedIn calls
  ordered : ∀ part, part <+: calls → part.filterMap BusCall.closing? <+: bus.openedIn part

namespace ClosesWhatItOpens

theorem nil (bus : Bus) : ClosesWhatItOpens bus [] := by
  refine ⟨Nat.zero_le 1, rfl, ?_⟩
  intro part few
  rw [List.prefix_nil.mp few]
  exact List.nil_prefix

theorem of_fails {bus : Bus} {device : Nat} (fails : bus.codeAt device .openDevice ≠ 0) :
    ClosesWhatItOpens bus [.openDevice device] := by
  refine ⟨Nat.le_refl 1, ?_, ?_⟩
  · simp [openedIn, BusCall.opening?, BusCall.closing?, fails]
  · intro part few
    have closesNone := filterMap_prefix BusCall.closing? few rfl
    rw [closesNone]
    exact List.nil_prefix

end ClosesWhatItOpens

def IsQuiet (call : BusCall) : Prop :=
  call.opening? = none ∧ call.closing? = none

theorem opensNone_of_quiet {calls : List BusCall} (quiet : ∀ call ∈ calls, IsQuiet call) :
    calls.filterMap BusCall.opening? = [] := by
  refine List.filterMap_eq_nil_iff.mpr ?_
  intro call member
  exact (quiet call member).1

theorem closesNone_of_quiet {calls : List BusCall} (quiet : ∀ call ∈ calls, IsQuiet call) :
    calls.filterMap BusCall.closing? = [] := by
  refine List.filterMap_eq_nil_iff.mpr ?_
  intro call member
  exact (quiet call member).2

section

variable {bus : Bus} {device : Nat} {middle : List BusCall}

theorem openedIn_visit (opens : bus.codeAt device .openDevice = 0)
    (quiet : ∀ call ∈ middle, IsQuiet call) :
    bus.openedIn (.openDevice device :: (middle ++ [.closeDevice device])) = [device] := by
  simp [openedIn, BusCall.opening?, opensNone_of_quiet quiet, opens]

theorem ClosesWhatItOpens.of_visit (opens : bus.codeAt device .openDevice = 0)
    (quiet : ∀ call ∈ middle, IsQuiet call) :
    ClosesWhatItOpens bus (.openDevice device :: (middle ++ [.closeDevice device])) := by
  have opensNone : (middle ++ [BusCall.closeDevice device]).filterMap BusCall.opening? = [] := by
    rw [List.filterMap_append, opensNone_of_quiet quiet]
    rfl
  have closesOne :
      (middle ++ [BusCall.closeDevice device]).filterMap BusCall.closing? = [device] := by
    rw [List.filterMap_append, closesNone_of_quiet quiet]
    rfl
  refine ⟨?_, ?_, ?_⟩
  · simp [BusCall.opening?, opensNone]
  · rw [openedIn_visit opens quiet]
    exact closesOne
  · intro part few
    cases part with
    | nil => exact List.nil_prefix
    | cons first part =>
        -- From its first call on, a part of the log has the open in it, so it may have the close.
        obtain ⟨rfl, fewer⟩ := List.cons_prefix_cons.mp few
        have closes := fewer.filterMap BusCall.closing?
        have opensNoMore := filterMap_prefix BusCall.opening? fewer opensNone
        have opened : bus.openedIn (.openDevice device :: part) = [device] := by
          simp [openedIn, BusCall.opening?, opensNoMore, opens]
        rw [closesOne] at closes
        rw [opened]
        exact closes

end

theorem no_traffic {calls earlier later : List BusCall} {call : BusCall} {device : Nat}
    (silent : ∀ call ∈ calls, call.traffic? = none) (split : calls = earlier ++ call :: later) :
    call.traffic? ≠ some device := by
  subst split
  have unasked := silent call (List.mem_append_right _ List.mem_cons_self)
  rw [unasked]
  exact nofun

theorem traffic_between {device target : Nat} {uses releases earlier later : List BusCall}
    {call : BusCall} (traffic : ∀ call ∈ uses, BusCall.traffic? call = some device)
    (few : releases <+: [.release device 0])
    (split : [.openDevice device, .autoDetach device, .claim device 0] ++
      (uses ++ releases ++ [.release device 0, .closeDevice device]) = earlier ++ call :: later)
    (goes : call.traffic? = some target) :
    target = device ∧
      (∃ between,
        earlier = [.openDevice device, .autoDetach device, .claim device 0] ++ between) ∧
      .release device 0 ∉ earlier ∧ .release device 0 ∈ later := by
  have notFirst : call ∉ [.openDevice device, .autoDetach device, .claim device 0] := by
    intro member
    simp only [List.mem_cons, List.not_mem_nil, or_false] at member
    rcases member with rfl | rfl | rfl <;> cases goes
  have notLast : call ∉ releases ++ [.release device 0, .closeDevice device] := by
    intro member
    rcases List.mem_append.mp member with released | ended
    · rw [List.mem_singleton.mp (few.subset released)] at goes
      cases goes
    · simp only [List.mem_cons, List.not_mem_nil, or_false] at ended
      rcases ended with rfl | rfl <;> cases goes
  obtain ⟨between, rfl, rest⟩ := split_after split notFirst
  rw [List.append_assoc] at rest
  obtain ⟨after, rfl, rfl⟩ := split_before rest notLast
  have here := traffic call (by simp)
  refine ⟨Option.some.inj (goes.symm.trans here), ⟨between, rfl⟩, ?_, by simp⟩
  intro member
  rcases List.mem_append.mp member with first | used
  · simp at first
  · have silent := traffic _ (List.mem_append_left _ used)
    cases silent

structure LeavesNothingOpen (bus : Bus) (service? : Option ServiceClass) (after : Bus) : Prop where
  handles : after.handles = []
  claims : after.claims = []
  untouched : service? = none → after.calls = []
  balanced : ClosesWhatItOpens bus after.calls
  numbered : after.nextHandle = (bus.openedIn after.calls).length
  /-- Traffic comes after the claim, which was granted, and before anything is released. -/
  traffic : service? = some .interface → ∀ earlier call later device,
    after.calls = earlier ++ call :: later → BusCall.traffic? call = some device →
    (∃ between,
      earlier = [.openDevice device, .autoDetach device, .claim device 0] ++ between) ∧
    (((bus.opened device).recordAll [.autoDetach device]).claim (bus.nextOn device) 0).1 = .ok () ∧
    .release device 0 ∉ earlier ∧ .release device 0 ∈ later
  wholeDevice : service? = some .device → ∀ call ∈ after.calls, ∀ device number,
    call ≠ .claim device number ∧ call ≠ .release device number

theorem Visit.leavesNothingOpen {devices : List BusDevice} {startCode listCode : Int} {after : Bus}
    {service? : Option ServiceClass}
    (visit : Visit { devices, startCode, listCode } service? after) :
    LeavesNothingOpen { devices, startCode, listCode } service? after := by
  cases visit with
  | away =>
      refine ⟨rfl, rfl, fun _ => rfl, .nil _, rfl, ?_, ?_⟩
      · intro _ earlier call later device split
        simp at split
      · intro _ call member
        cases member
  | @unopened service device fails =>
      refine ⟨rfl, rfl, by simp, .of_fails fails, ?_, ?_, ?_⟩
      · simp [recordAll, openedIn, BusCall.opening?, fails]
      · intro _ earlier call later target split goes
        refine absurd goes (no_traffic ?_ split)
        intro call member
        rw [List.mem_singleton.mp member]
        rfl
      · intro _ call member target number
        rw [List.mem_singleton.mp member]
        simp
  | @undone device tried opens few =>
      have quiet : ∀ call ∈ tried, IsQuiet call := by
        intro call member
        rcases List.mem_pair.mp (few.subset member) with rfl | rfl <;> exact ⟨rfl, rfl⟩
      refine ⟨rfl, rfl, by simp, .of_visit opens quiet, ?_, ?_, by simp⟩
      · exact congrArg List.length (openedIn_visit opens quiet).symm
      · intro _ earlier call later target split goes
        refine absurd goes (no_traffic ?_ split)
        intro call member
        rcases List.mem_cons.mp member with rfl | member
        · rfl
        rcases List.mem_append.mp member with attempt | ended
        · rcases List.mem_pair.mp (few.subset attempt) with rfl | rfl <;> rfl
        · rw [List.mem_singleton.mp ended]
          rfl
  | @interface device uses releases devices opens claims traffic few =>
      have quiet : ∀ call ∈ [BusCall.autoDetach device, .claim device 0] ++
          (uses ++ releases ++ [.release device 0]), IsQuiet call := by
        intro call member
        simp only [List.mem_append, List.mem_pair, List.mem_singleton] at member
        rcases member with (rfl | rfl) | (used | released) | rfl
        · exact ⟨rfl, rfl⟩
        · exact ⟨rfl, rfl⟩
        · exact BusCall.opening?_of_traffic? (traffic call used)
        · rw [List.mem_singleton.mp (few.subset released)]
          exact ⟨rfl, rfl⟩
        · exact ⟨rfl, rfl⟩
      have balanced := ClosesWhatItOpens.of_visit opens quiet
      have single := openedIn_visit opens quiet
      rw [List.append_assoc, List.append_assoc (uses ++ releases)] at balanced single
      refine ⟨rfl, rfl, by simp, balanced, ?_, ?_, by simp⟩
      · exact congrArg List.length single.symm
      · intro _ earlier call later target split goes
        obtain ⟨rfl, before, unreleased, released⟩ := traffic_between traffic few split goes
        refine ⟨before, ?_, unreleased, released⟩
        rw [claims]
  | @device device uses devices opens traffic =>
      have quiet : ∀ call ∈ uses, IsQuiet call := by
        intro call member
        exact BusCall.opening?_of_traffic? (traffic call member)
      refine ⟨rfl, rfl, by simp, .of_visit opens quiet, ?_, by simp, ?_⟩
      · exact congrArg List.length (openedIn_visit opens quiet).symm
      · intro _ call member target number
        rcases List.mem_cons.mp member with rfl | member
        · simp
        rcases List.mem_append.mp member with used | ended
        · have goes := traffic call used
          constructor
          · rintro rfl
            cases goes
          · rintro rfl
            cases goes
        · rw [List.mem_singleton.mp ended]
          simp

end Bus

namespace Program

/-- However a run ends, each handle that it opened was closed once, and no claim is held. -/
theorem run_leaves_nothing_open (arguments : List String) (surroundings : Surroundings)
    (logFilter : Option String) (files : FileTree) (devices : List BusDevice)
    (startCode listCode : Int) :
    Bus.LeavesNothingOpen { devices, startCode, listCode }
      ((command? arguments).bind Command.service?)
      (run arguments
        { surroundings, logFilter, files, bus := { devices, startCode, listCode } }).2.bus := by
  have fresh :
      (World.mk surroundings logFilter files { devices, startCode, listCode }).bus.IsFresh :=
    ⟨nofun, nofun⟩
  exact (run_visit arguments fresh).leavesNothingOpen

end Program

end UsbHost
