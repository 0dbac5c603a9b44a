import UsbHost.Proofs.Bench.Protocol

/-!
The calls of a run on a bench balance: every query has its release of the plugin, and every opened
interface and every found device is released, or still kept, or was displaced without a release by
one of a table that had handed out every identifier.
-/

namespace UsbHost

def interfacesOn (device : Nat) (table : HandleTable BenchInterface) : Nat :=
  table.countP fun interface => interface.device == device

def devicesOn (device : Nat) (table : HandleTable Nat) : Nat := table.countP (· == device)

theorem interfacesOn_insert (device other : Nat) (table : HandleTable BenchInterface) :
    interfacesOn device (table.insert ⟨other, true⟩).2 +
        ((table.insert ⟨other, true⟩).2.displaced table).countP
          (fun lost => lost.device == device) =
      interfacesOn device table + if other = device then 1 else 0 := by
  have added := table.countP_insert ⟨other, true⟩ fun interface => interface.device == device
  simpa [interfacesOn] using added

theorem devicesOn_insert (device other : Nat) (table : HandleTable Nat) :
    devicesOn device (table.insert other).2 +
        ((table.insert other).2.displaced table).count device =
      devicesOn device table + if other = device then 1 else 0 := by
  have added := table.countP_insert other (· == device)
  simpa [devicesOn, List.count_eq_countP] using added

namespace Step

def displacedInterfaces (step : Step Bench) : List BenchInterface :=
  step.after.interfaces.displaced step.before.interfaces

def displacedDevices (step : Step Bench) : List Nat :=
  step.after.devices.displaced step.before.devices

end Step

def answeredQueries (device : Nat) (result : Except WordFault Unit) (calls : List BenchCall) :
    Nat :=
  calls.countP fun call => call == .queryDevice device && !call.fails result

theorem answeredQueries_ok (device : Nat) (calls : List BenchCall) :
    answeredQueries device (.ok ()) calls = calls.count (.queryDevice device) := by
  simp [answeredQueries, fails_ok, List.count_eq_countP]

theorem count_use {call other : BenchCall} (plain : call.isUse) (special : other.isUse = false) :
    [call].count other = 0 := by
  refine List.count_eq_zero.mpr ?_
  intro member
  rw [List.mem_singleton.mp member, plain] at special
  cases special

theorem answeredQueries_use {call : BenchCall} (plain : call.isUse) (device : Nat)
    (result : Except WordFault Unit) : answeredQueries device result [call] = 0 := by
  refine List.countP_eq_zero.mpr ?_
  intro other member
  have apart : other ≠ .queryDevice device := by
    rintro rfl
    rw [← List.mem_singleton.mp member] at plain
    cases plain
  simp [apart]

namespace Session.Protocol

variable {session : Session Bench} {word : Word} {result : Except WordFault Unit}
  {calls : List BenchCall} {interfaces : HandleTable BenchInterface} {devices : HandleTable Nat}

theorem plugins (protocol : session.Protocol word result calls interfaces devices) (device : Nat) :
    calls.count (.queryInterface device) + calls.count (.queryDevice device) =
      calls.count (.releasePlugin device) := by
  cases protocol with
  | unqueried criteria other fits clear told =>
      rename_i kind cause
      cases kind <;> simp [List.count_cons, BenchCall.query, HandleKind.serviceClass]
  | used uses plain names clear | unused uses plain names told =>
      rw [count_use plain rfl, count_use plain rfl, count_use plain rfl]
  | _ => simp [List.count_cons]

theorem opens (protocol : session.Protocol word result calls interfaces devices) (device : Nat) :
    interfacesOn device session.interfaces + calls.count (.openInterface device) =
      calls.count (.releaseInterface device) + interfacesOn device interfaces +
        (interfaces.displaced session.interfaces).countP fun lost => lost.device == device := by
  cases protocol with
  | unqueried criteria other fits clear told =>
      rename_i kind cause
      cases kind <;> simp [BenchCall.query, HandleKind.serviceClass]
  | used uses plain names clear | unused uses plain names told =>
      rw [count_use plain rfl, count_use plain rfl]
      simp
  | opened criteria other fits clear =>
      refine Eq.trans ?_ ((interfacesOn_insert device other session.interfaces).symm.trans ?_)
      · simp [List.count_cons]
      · simp
  | closed live clear =>
      rename_i handle interface
      have split : interfacesOn device session.interfaces = _ := HandleTable.countP_erase live _
      rw [split]
      simp [List.count_cons, interfacesOn, Nat.add_comm]
  | _ => simp [List.count_cons, Nat.add_comm]

theorem finds (protocol : session.Protocol word result calls interfaces devices) (device : Nat) :
    devicesOn device session.devices + answeredQueries device result calls =
      calls.count (.releaseDevice device) + devicesOn device devices +
        (devices.displaced session.devices).count device := by
  cases protocol with
  | unqueried criteria other fits clear told =>
      rename_i kind cause
      cases kind <;>
        simp [answeredQueries, BenchCall.query, BenchCall.fails, BenchCall.step?, failedStep?,
          Failure.step?, HandleKind.serviceClass]
  | used uses plain names clear | unused uses plain names told =>
      rw [count_use plain rfl, answeredQueries_use plain]
      simp
  | found criteria other fits clear =>
      rw [answeredQueries_ok]
      refine Eq.trans ?_ ((devicesOn_insert device other session.devices).symm.trans ?_)
      · simp [List.count_cons]
      · simp
  | deviceClosed live =>
      rename_i handle other
      have split : devicesOn device session.devices = _ := HandleTable.countP_erase live _
      rw [split]
      simp [List.count_cons, answeredQueries, devicesOn, Nat.add_comm]
  | _ => simp [answeredQueries]

end Session.Protocol

namespace Session

structure CallsBalance (session : Session Bench) (history : List (Step Bench)) : Prop where
  log : session.host.calls = history.flatMap Step.benchCalls
  plugins : ∀ device, session.host.calls.count (.queryInterface device) +
    session.host.calls.count (.queryDevice device) =
      session.host.calls.count (.releasePlugin device)
  interfaces : ∀ device, session.host.calls.count (.openInterface device) =
    session.host.calls.count (.releaseInterface device) + interfacesOn device session.interfaces +
      (history.flatMap Step.displacedInterfaces).countP fun lost => lost.device == device
  devices : ∀ device,
    (history.map fun step => answeredQueries device step.result step.benchCalls).sum =
      session.host.calls.count (.releaseDevice device) + devicesOn device session.devices +
        (history.flatMap Step.displacedDevices).count device

theorem CallsBalance.extend {step : Step Bench} {history : List (Step Bench)}
    (balance : CallsBalance step.before history) (follows : FollowsProtocol step) :
    CallsBalance step.after (history ++ [step]) := by
  have calls : step.after.host.calls = step.before.host.calls ++ step.benchCalls := by
    obtain ⟨calls, logged⟩ := follows.logged
    rw [Step.benchCalls, ← logged, List.drop_left]
  refine ⟨?_, ?_, ?_, ?_⟩
  · rw [calls, List.flatMap_append, List.flatMap_singleton, ← balance.log]
  · intro device
    have before := balance.plugins device
    have now := follows.protocol.plugins device
    simp only [calls, List.count_append]
    omega
  · intro device
    have before := balance.interfaces device
    have now := follows.protocol.opens device
    simp only [calls, List.count_append, List.flatMap_append, List.flatMap_singleton,
      List.countP_append, Step.displacedInterfaces]
    omega
  · intro device
    have before := balance.devices device
    have now := follows.protocol.finds device
    simp only [calls, List.count_append, List.map_append, List.sum_append, List.map_singleton,
      List.sum_singleton, List.flatMap_append, List.flatMap_singleton, Step.displacedDevices]
    omega

theorem callsBalance (devices : List BenchDevice) (machine : Machine)
    (events : List (Event Bench)) (kept : .change BenchChange.clearCalls ∉ events) :
    CallsBalance ((start ({ devices } : Bench) machine).advance events)
      ((start ({ devices } : Bench) machine).history events) := by
  induction events using List.reverseRecOn with
  | nil => exact ⟨rfl, fun device => rfl, fun device => rfl, fun device => rfl⟩
  | append_singleton events event ih =>
      have before := ih (fun member => kept (List.mem_append_left _ member))
      simp only [advance_append, history_append, advance_singleton, history_singleton]
      cases event with
      | word word => exact before.extend (step_followsProtocol word _)
      | machine machine =>
          simp only [steps, List.append_nil]
          exact { before with }
      | change change =>
          simp only [steps, List.append_nil]
          cases change with
          | clearCalls => exact absurd (List.mem_append_right _ (List.mem_singleton.mpr rfl)) kept
          | fail step fault => exact { before with }
          | clearFaults => exact { before with }
          | queue device data => exact { before with }

theorem nothing_displaced {host : Bench} {machine : Machine} {events : List (Event Bench)}
    (room : (start host machine).HasRoom events) :
    ∀ step ∈ (start host machine).history events,
      step.displacedInterfaces = [] ∧ step.displacedDevices = [] := by
  intro step member
  obtain ⟨earlier, word, later, split, rfl⟩ := exists_of_mem_history member
  have early : earlier ++ [.word word] <+: events := by
    rw [split]
    exact (List.prefix_append_right_inj earlier).mpr (List.prefix_append [_] later)
  have free := fun kind => free_next kind (room.earlier early)
  simp only [advance_append, advance_singleton] at free
  constructor
  · refine HandleTable.displaced_eq_nil ?_
    intro moved
    exact Option.map_eq_none_iff.mp (free .interface moved)
  · refine HandleTable.displaced_eq_nil ?_
    intro moved
    exact Option.map_eq_none_iff.mp (free .device moved)

/-- Every word follows its protocol, the calls balance while the log is kept, and a release is
missing only for what a table displaced after it had handed out every identifier. -/
theorem bench_calls_balance (devices : List BenchDevice) (machine : Machine)
    (events : List (Event Bench)) :
    (∀ step ∈ (start ({ devices } : Bench) machine).history events, FollowsProtocol step) ∧
      (.change BenchChange.clearCalls ∉ events →
        CallsBalance ((start ({ devices } : Bench) machine).advance events)
          ((start ({ devices } : Bench) machine).history events)) ∧
      ((start ({ devices } : Bench) machine).HasRoom events →
        ∀ step ∈ (start ({ devices } : Bench) machine).history events,
          step.displacedInterfaces = [] ∧ step.displacedDevices = []) := by
  refine ⟨?_, callsBalance devices machine events, nothing_displaced⟩
  intro step member
  obtain ⟨earlier, word, later, split, rfl⟩ := exists_of_mem_history member
  exact step_followsProtocol word _

def openOnSecondTry : List (Event Bench) :=
  [.change (.fail .interfaceOpen .busy), .machine { stack := [0x5740, 0x0483] },
    .word .findInterface, .change .clearFaults, .machine { stack := [0x5740, 0x0483] },
    .word .findInterface]

theorem second_try_balances :
    ((start ({ devices := [.probe] } : Bench) {}).advance openOnSecondTry).host.calls.count
        (.openInterface 0) = 2 ∧
      (∀ step ∈ (start ({ devices := [.probe] } : Bench) {}).history openOnSecondTry,
        FollowsProtocol step) ∧
      CallsBalance ((start ({ devices := [.probe] } : Bench) {}).advance openOnSecondTry)
        ((start ({ devices := [.probe] } : Bench) {}).history openOnSecondTry) ∧
      ∀ step ∈ (start ({ devices := [.probe] } : Bench) {}).history openOnSecondTry,
        step.displacedInterfaces = [] ∧ step.displacedDevices = [] := by
  have kept : .change BenchChange.clearCalls ∉ openOnSecondTry := by
    simp [openOnSecondTry]
  have room : (start ({ devices := [.probe] } : Bench) {}).HasRoom openOnSecondTry := by
    intro kind
    cases kind <;> decide
  obtain ⟨follows, balances, keeps⟩ := bench_calls_balance [.probe] {} openOnSecondTry
  exact ⟨by decide, follows, balances kept, keeps room⟩

end Session

end UsbHost
