import UsbHost.Proofs.Bus.Ownership

/-!
The ledger of handles. What a run has opened, it has either closed, once, or it still has open; and
the log of the bus shows every close.
-/

namespace UsbHost

namespace Step

def busCalls (step : Step Bus) : List BusCall :=
  step.after.host.calls.drop step.before.host.calls.length

/-- The handles that a word opens: one for each open that the device lets succeed. -/
def openedHandles (step : Step Bus) : List BusHandle :=
  ((step.busCalls.filterMap BusCall.opening?).filter fun device =>
    step.before.host.codeAt device .openDevice = 0).map fun device => step.before.host.nextOn device

/-- The handles that were open before a word, or are opened by it, and are not open after it. -/
def closedHandles (step : Step Bus) : List BusHandle :=
  (step.before.host.handles ++ step.openedHandles).filter fun handle =>
    handle ∉ step.after.host.handles

theorem busCalls_of_append {step : Step Bus} {calls : List BusCall}
    (logged : step.after.host.calls = step.before.host.calls ++ calls) : step.busCalls = calls := by
  rw [busCalls, logged, List.drop_left]

theorem openedHandles_of_log {step : Step Bus} {calls : List BusCall}
    (logged : step.after.host.calls = step.before.host.calls ++ calls) :
    step.openedHandles = ((calls.filterMap BusCall.opening?).filter fun device =>
      step.before.host.codeAt device .openDevice = 0).map step.before.host.nextOn := by
  rw [openedHandles, busCalls_of_append logged]

end Step

theorem filter_notMem_perm {before gone stays : List BusHandle}
    (split : before.Perm (gone ++ stays)) (distinct : before.Nodup) :
    (before.filter fun handle => handle ∉ stays).Perm gone := by
  have parted := List.nodup_append.mp (split.nodup_iff.mp distinct)
  have filtered := split.filter fun handle => decide (handle ∉ stays)
  have kept : gone.filter (fun handle => decide (handle ∉ stays)) = gone := by
    refine List.filter_eq_self.mpr ?_
    intro handle member
    simpa using fun stayed => parted.2.2 handle member handle stayed rfl
  have dropped : stays.filter (fun handle => decide (handle ∉ stays)) = [] := by
    refine List.filter_eq_nil_iff.mpr ?_
    intro handle member
    simpa using member
  rw [List.filter_append, kept, dropped, List.append_nil] at filtered
  exact filtered

/-- A word settles its handles: it closes only what was open, every close is in the log, and a word
that fails has closed again what it opened. -/
structure Settled (step : Step Bus) : Prop where
  logged : step.before.host.calls <+: step.after.host.calls
  numbers : List.range step.before.host.nextHandle ++ step.openedHandles.map BusHandle.number =
    List.range step.after.host.nextHandle
  balance : (step.before.host.handles ++ step.openedHandles).Perm
    (step.closedHandles ++ step.after.host.handles)
  closes : step.busCalls.filterMap BusCall.closing? = step.closedHandles.map BusHandle.device
  failed : ∀ fault, step.result = .error fault →
    step.after.host.handles = step.before.host.handles ∧
      step.after.host.claims = step.before.host.claims ∧
      step.closedHandles = step.openedHandles

theorem Settled.of_split {step : Step Bus} {calls : List BusCall} (opened gone : List BusHandle)
    (owned : step.before.Owned)
    (logged : step.after.host.calls = step.before.host.calls ++ calls)
    (opens : ((calls.filterMap BusCall.opening?).filter fun device =>
      step.before.host.codeAt device .openDevice = 0).map
        (fun device => step.before.host.nextOn device) = opened)
    (single : opened = [] ∨ ∃ device, opened = [step.before.host.nextOn device])
    (next : step.after.host.nextHandle = step.before.host.nextHandle + opened.length)
    (split : (step.before.host.handles ++ opened).Perm (gone ++ step.after.host.handles))
    (few : gone.length ≤ 1) (closes : calls.filterMap BusCall.closing? = gone.map BusHandle.device)
    (failed : ∀ fault, step.result = .error fault →
      step.after.host.handles = step.before.host.handles ∧
        step.after.host.claims = step.before.host.claims ∧ gone = opened) :
    Settled step := by
  have seen : step.openedHandles = opened := (Step.openedHandles_of_log logged).trans opens
  have distinct : (step.before.host.handles ++ opened).Nodup := by
    rcases single with none | ⟨device, one⟩
    · rw [none, List.append_nil]
      exact owned.numbered.of_map
    · rw [one]
      exact (owned.numbered_append device).of_map
  have perm : step.closedHandles.Perm gone := by
    rw [Step.closedHandles, seen]
    exact filter_notMem_perm split distinct
  have closed : step.closedHandles = gone := by
    match gone, few with
    | [], _ => exact perm.eq_nil
    | [handle], _ => exact perm.eq_singleton
  refine {
    logged := ⟨calls, logged.symm⟩
    numbers := ?_
    balance := by rw [seen, closed]; exact split
    closes := by rw [Step.busCalls_of_append logged, closes, closed]
    failed := by rw [seen, closed]; exact failed }
  rw [seen]
  rcases single with none | ⟨device, one⟩
  · simp [none, next]
  · rw [next, one, List.length_singleton, List.range_succ]
    rfl

theorem Settled.of_success {step : Step Bus} {calls : List BusCall} (opened gone : List BusHandle)
    (owned : step.before.Owned) (succeeds : step.result = .ok ())
    (logged : step.after.host.calls = step.before.host.calls ++ calls)
    (opens : ((calls.filterMap BusCall.opening?).filter fun device =>
      step.before.host.codeAt device .openDevice = 0).map
        (fun device => step.before.host.nextOn device) = opened)
    (single : opened = [] ∨ ∃ device, opened = [step.before.host.nextOn device])
    (next : step.after.host.nextHandle = step.before.host.nextHandle + opened.length)
    (split : (step.before.host.handles ++ opened).Perm (gone ++ step.after.host.handles))
    (few : gone.length ≤ 1)
    (closes : calls.filterMap BusCall.closing? = gone.map BusHandle.device) : Settled step := by
  refine .of_split opened gone owned logged opens single next split few closes ?_
  intro fault failed
  rw [succeeds] at failed
  cases failed

open Session in
theorem Session.Dealing.settled {session after : Session Bus} {result : Except WordFault Unit}
    (dealing : Dealing session result after) (owned : session.Owned) (word : Word) :
    Settled ⟨word, session, result, after⟩ := by
  cases dealing with
  | quiet opens closes =>
      refine .of_split [] [] owned rfl ?_ (Or.inl rfl) rfl ?_ (by simp) closes ?_
      · rw [List.map_eq_nil_iff, List.filter_eq_nil_iff]
        simpa using opens
      · rw [List.append_nil]
        exact .refl _
      · exact fun fault _ => ⟨rfl, rfl, rfl⟩
  | undone opens few =>
      rename_i failure machine device tried
      have opensNone : tried.filterMap BusCall.opening? = [] := filterMap_prefix _ few rfl
      have closesNone : tried.filterMap BusCall.closing? = [] := filterMap_prefix _ few rfl
      refine .of_split [session.host.nextOn device] [session.host.nextOn device] owned rfl ?_
        (Or.inr ⟨device, rfl⟩) rfl ?_ (by simp) ?_ ?_
      · simp [BusCall.opening?, opensNone, opens]
      · exact List.perm_append_comm
      · simp [List.filterMap_cons, BusCall.closing?, closesNone, Bus.nextOn]
      · exact fun fault _ => ⟨rfl, rfl, rfl⟩
  | interfaceAdded opens unheld free =>
      rename_i machine device pipes
      refine .of_success [session.host.nextOn device] [] owned rfl rfl ?_ (Or.inr ⟨device, rfl⟩)
        rfl (.refl _) (by simp) rfl
      simp [BusCall.opening?, opens]
  | interfaceReplaced opens unheld live opensNone closesOne =>
      rename_i machine device pipes calls displaced
      have logged : ((session.host.claimedNew device).recordAll calls).calls =
          session.host.calls ++
            ([.openDevice device, .autoDetach device, .claim device 0] ++ calls) :=
        List.append_assoc _ _ _
      refine .of_success [session.host.nextOn device] [displaced.handle] owned rfl logged ?_
        (Or.inr ⟨device, rfl⟩) rfl ?_ (by simp) ?_
      · rw [List.filterMap_append, opensNone]
        simp [BusCall.opening?, opens]
      · exact perm_cons_filter_ne BusHandle.number (owned.numbered_append device)
          (List.mem_append_left _ (owned.mem_handles_of_interface live))
      · simp [List.filterMap_cons, BusCall.closing?, closesOne]
  | deviceAdded opens free =>
      rename_i machine device
      refine .of_success [session.host.nextOn device] [] owned rfl rfl ?_ (Or.inr ⟨device, rfl⟩)
        rfl (.refl _) (by simp) rfl
      simp [BusCall.opening?, opens]
  | deviceReplaced opens live =>
      rename_i machine device displaced
      have logged : ((session.host.opened device).recordAll [.closeDevice displaced.device]).calls =
          session.host.calls ++ [.openDevice device, .closeDevice displaced.device] :=
        List.append_assoc _ _ _
      refine .of_success [session.host.nextOn device] [displaced] owned rfl logged ?_
        (Or.inr ⟨device, rfl⟩) rfl ?_ (by simp) rfl
      · simp [BusCall.opening?, opens]
      · exact perm_cons_filter_ne BusHandle.number (owned.numbered_append device)
          (List.mem_append_left _ (owned.mem_handles_of_device live))
  | interfaceDropped live =>
      rename_i machine handle interface
      refine .of_success [] [interface.handle] owned rfl rfl rfl (Or.inl rfl) rfl ?_ (by simp) rfl
      rw [List.append_nil]
      exact perm_cons_filter_ne BusHandle.number owned.numbered
        (owned.mem_handles_of_interface live)
  | deviceDropped live =>
      rename_i machine handle device
      refine .of_success [] [device] owned rfl rfl rfl (Or.inl rfl) rfl ?_ (by simp) rfl
      rw [List.append_nil]
      exact perm_cons_filter_ne BusHandle.number owned.numbered
        (owned.mem_handles_of_device live)

namespace Session

theorem owned_apply (event : Event Bus) (session : Session Bus) (owned : Owned session) :
    Owned (session.apply event) := by
  cases event with
  | word word =>
      have ending := run_ended word session
      exact (ending.dealing owned.fresh).owned owned
  | machine machine => exact owned.of_same rfl rfl rfl rfl rfl
  | change change =>
      cases change with
      | setCode device point code => exact owned.of_same rfl rfl rfl rfl rfl
      | setListCode code => exact owned.of_same rfl rfl rfl rfl rfl
      | addScript device script => exact owned.of_same rfl rfl rfl rfl rfl

theorem owned (devices : List BusDevice) (machine : Machine) (events : List (Event Bus)) :
    Owned ((start ({ devices } : Bus) machine).advance events) :=
  advance_keeps Owned owned_apply events _ (.start devices machine)

theorem step_settled (word : Word) {session : Session Bus} (owned : Owned session) :
    Settled (session.step word) :=
  ((run_ended word session).dealing owned.fresh).settled owned word

structure Balanced (session : Session Bus) (history : List (Step Bus)) : Prop where
  numbers : (history.flatMap Step.openedHandles).map BusHandle.number =
    List.range session.host.nextHandle
  balance : (history.flatMap Step.openedHandles).Perm
    (history.flatMap Step.closedHandles ++ session.host.handles)
  log : session.host.calls = history.flatMap Step.busCalls

theorem Balanced.extend {step : Step Bus} {history : List (Step Bus)}
    (balanced : Balanced step.before history) (settled : Settled step) :
    Balanced step.after (history ++ [step]) where
  numbers := by
    rw [List.flatMap_append, List.map_append, balanced.numbers, List.flatMap_singleton]
    exact settled.numbers
  balance := by
    simp only [List.flatMap_append, List.flatMap_singleton, List.append_assoc]
    refine (balanced.balance.append_right _).trans ?_
    rw [List.append_assoc]
    exact settled.balance.append_left _
  log := by
    obtain ⟨calls, logged⟩ := settled.logged
    rw [List.flatMap_append, List.flatMap_singleton, Step.busCalls_of_append logged.symm,
      ← balanced.log, logged]

theorem balanced (devices : List BusDevice) (machine : Machine) (events : List (Event Bus)) :
    Balanced ((start ({ devices } : Bus) machine).advance events)
      ((start ({ devices } : Bus) machine).history events) := by
  induction events using List.reverseRecOn with
  | nil => exact ⟨rfl, .refl _, rfl⟩
  | append_singleton events event ih =>
      simp only [advance_append, history_append, advance_singleton, history_singleton]
      cases event with
      | word word => exact ih.extend (step_settled word (owned devices machine events))
      | machine machine =>
          simp only [steps, List.append_nil]
          exact { ih with }
      | change change =>
          simp only [steps, List.append_nil]
          cases change with
          | setCode device point code => exact { ih with }
          | setListCode code => exact { ih with }
          | addScript device script => exact { ih with }

/-- Over a whole run no handle leaks, no handle is closed twice, and no claim is left behind. -/
structure NothingLeaks (opening : Session Bus) (events : List (Event Bus)) : Prop where
  owned : Owned (opening.advance events)
  holds : ∀ entry ∈ (opening.advance events).interfaces.entries,
    (opening.advance events).host.holder? (BusInterface.handle entry.2).device 0 =
      some (BusInterface.handle entry.2).number
  settled : ∀ step ∈ opening.history events, Settled step
  balanced : Balanced (opening.advance events) (opening.history events)
  once : ((opening.history events).flatMap Step.closedHandles).Nodup

theorem bus_leaks_nothing (devices : List BusDevice) (machine : Machine)
    (events : List (Event Bus)) : NothingLeaks (start { devices } machine) events := by
  have kept := owned devices machine events
  have ledger := balanced devices machine events
  refine ⟨kept, ?_, ?_, ledger, ?_⟩
  · intro entry member
    exact kept.holder (HandleTable.get?_of_mem member)
  · intro step member
    obtain ⟨earlier, word, later, split, rfl⟩ := exists_of_mem_history member
    exact step_settled word (owned devices machine earlier)
  · -- Every handle has a number of its own, and only an opened one is ever closed.
    have opened : (((start ({ devices } : Bus) machine).history events).flatMap
        Step.openedHandles).Nodup := by
      refine List.Nodup.of_map BusHandle.number ?_
      rw [ledger.numbers]
      exact List.nodup_range
    exact (List.nodup_append.mp (ledger.balance.nodup_iff.mp opened)).1

example : ((start ({ devices := [{}] } : Bus) {}).history
    [.change (BusChange.setCode 0 .claim (-6)), .machine { stack := [0x5740, 0x0483] },
      .word .findInterface, .change (BusChange.setCode 0 .claim 0),
      .machine { stack := [0x5740, 0x0483] }, .word .findInterface]).map Step.closedHandles =
    [[⟨0, 0⟩], []] := by decide

end Session

end UsbHost
