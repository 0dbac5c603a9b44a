import UsbHost.Proofs.Command.Outcome
import UsbHost.Proofs.DataStage

/-!
The data stage of a command. It is as long as the request says and begins with the data that was
given, with zeros behind; and a run that finds its device hands exactly this stage to the bus
library, once.
-/

namespace UsbHost

inductive GivenData : Option String → Bytes → Prop
  | absent : GivenData none []
  | present {text given} (readable : HexData.read text = .ok given) : GivenData (some text) given

structure IsPadded (length : Nat) (given stage : Bytes) : Prop where
  size : stage.length = length
  front : given <+: stage
  rest : ∀ byte ∈ stage.drop given.length, byte = 0

def IsSendable (setup : Setup) (data : Option String) : Prop :=
  ∀ text, data = some text →
    setup.isInput = false ∧ ∃ given, HexData.read text = .ok given ∧
      given.length ≤ setup.length.toNat

theorem isPadded_append_zeros {length : Nat} {given : Bytes} (fits : given.length ≤ length) :
    IsPadded length given (given ++ Bytes.zeros (length - given.length)) where
  size := by
    rw [List.length_append, Bytes.zeros, List.length_replicate]
    omega
  front := List.prefix_append _ _
  rest byte member := by
    rw [List.drop_left] at member
    exact (List.mem_replicate.mp member).2

theorem dataStage_some {setup : Setup} {text : String} {given : Bytes}
    (output : setup.isInput = false) (readable : HexData.read text = .ok given)
    (fits : given.length ≤ setup.length.toNat) :
    dataStage setup (some text) =
      .ok (given ++ Bytes.zeros (setup.length.toNat - given.length)) := by
  simp only [dataStage, output, readable, Bool.false_eq_true, if_false,
    if_neg (Nat.not_lt_of_le fits)]

theorem isSendable_of_dataStage {setup : Setup} {data : Option String} {stage : Bytes}
    (staged : dataStage setup data = .ok stage) : IsSendable setup data := by
  rintro text rfl
  simp only [dataStage] at staged
  split at staged
  · cases staged
  · rename_i output
    split at staged
    · cases staged
    · rename_i given readable
      split at staged
      · cases staged
      · rename_i fits
        exact ⟨Bool.eq_false_of_not_eq_true output, given, readable, Nat.le_of_not_lt fits⟩

theorem IsSendable.staged {setup : Setup} {data : Option String}
    (sendable : IsSendable setup data) :
    ∃ given stage, GivenData data given ∧ IsPadded setup.length.toNat given stage ∧
      dataStage setup data = .ok stage := by
  cases data with
  | none =>
      have padded : IsPadded setup.length.toNat [] _ := isPadded_append_zeros (Nat.zero_le _)
      exact ⟨[], _, .absent, padded, rfl⟩
  | some text =>
      obtain ⟨output, given, readable, fits⟩ := sendable text rfl
      exact ⟨given, _, .present readable, isPadded_append_zeros fits,
        dataStage_some output readable fits⟩

theorem padded_of_dataStage {setup : Setup} {data : Option String} {stage : Bytes}
    (staged : dataStage setup data = .ok stage) :
    ∃ given, GivenData data given ∧ IsPadded setup.length.toNat given stage := by
  obtain ⟨given, other, isGiven, padded, same⟩ := (isSendable_of_dataStage staged).staged
  cases staged.symm.trans same
  exact ⟨given, isGiven, padded⟩

namespace Bus

def traffic (bus : Bus) : List BusCall := bus.calls.filter fun call => call.traffic?.isSome

theorem traffic_append {bus after : Bus} (calls : List BusCall)
    (logged : after.calls = bus.calls ++ calls) :
    after.traffic = bus.traffic ++ calls.filter fun call => call.traffic?.isSome := by
  rw [traffic, logged, List.filter_append]
  rfl

theorem lookup_quiet (held : Nat → Bool) (vendorId productId : UInt16) (bus : Bus) :
    (bus.lookup held vendorId productId).2.filter (fun call => call.traffic?.isSome) = [] := by
  unfold lookup
  split
  · rfl
  · split
    · rfl
    · repeat' split
      all_goals rfl

theorem lookupDevice_quiet (vendorId productId : UInt16) (bus : Bus) :
    (bus.lookupDevice vendorId productId).2.filter (fun call => call.traffic?.isSome) = [] := by
  unfold lookupDevice
  split
  · rfl
  · split
    · rfl
    · split
      · rfl
      · rfl

theorem controlRequest_logs (interface : BusInterface) (setup : Setup) (buffer : Bytes) (bus : Bus)
    (whole : buffer.length = setup.length.toNat) :
    (Access.control (σ := Bus) interface setup buffer bus).2.calls =
      bus.calls ++ [.control interface.handle.device setup setup.length.toNat 4000
        (if setup.isInput then [] else buffer)] := by
  have bounded := setup.length.toNat_lt
  unfold Access.control Access.onDataStage
  rw [if_neg (by omega), ← whole, List.take_length]
  exact control_logs interface.handle setup 4000 buffer bus (by omega) (by omega)

theorem deviceRequest_logs (handle : BusHandle) (setup : Setup) (buffer : Bytes) (bus : Bus)
    (whole : buffer.length = setup.length.toNat) :
    (Access.request (σ := Bus) handle setup buffer bus).2.calls =
      bus.calls ++ [.control handle.device setup setup.length.toNat 0
        (if setup.isInput then [] else buffer)] := by
  have bounded := setup.length.toNat_lt
  unfold Access.request Access.onDataStage
  rw [if_neg (by omega), ← whole, List.take_length]
  exact control_logs handle setup 0 buffer bus (by omega) (by omega)

theorem closing_quiet (device : Nat) (bus : Bus) :
    ((bus.closing device).2 ++ givingUp device (bus.closing device).1).filter
      (fun call => call.traffic?.isSome) = [] := by
  unfold closing
  split
  · rfl
  · rfl

end Bus

def Command.staging? : Command → Option (Setup × Option String)
  | control _ setup data | request _ setup data => some (setup, data)
  | list _ | probe _ _ | read _ _ _ | write _ _ _ => none

def Task.lookup (bus : Bus) : Task → Except Failure (Option Nat)
  | list _ => .ok none
  | onInterface vendorId productId _ => (bus.lookup bus.holds vendorId productId).1
  | onDevice vendorId productId _ _ => (bus.lookupDevice vendorId productId).1

def Task.timeout : Task → Nat
  | list _ | onInterface _ _ _ => 4000
  | onDevice _ _ _ _ => 0

/-- What a request with its stage comes to on the bus. Nothing else is sent or asked for. -/
inductive Task.Sends (bus : Bus) (setup : Setup) (stage : Bytes) (task : Task) (after : Bus) : Prop
  | unfound (missing : ∀ device, task.lookup bus ≠ .ok (some device))
      (quiet : after.traffic = bus.traffic)
  | found {device} (opened : task.lookup bus = .ok (some device))
      (sent : after.traffic = bus.traffic ++
        [.control device setup setup.length.toNat task.timeout
          (if setup.isInput then [] else stage)])

namespace Task

open Bus

theorem control_found {bus : Bus} {vendorId productId : UInt16} {setup : Setup} {stage : Bytes}
    {device : Nat} {pipes : PipeTable} (unheld : bus.holder? device 0 = none)
    (whole : stage.length = setup.length.toNat)
    (called : Access.findInterface (σ := Bus) vendorId productId bus =
      (.ok (some ⟨bus.nextOn device, 0, pipes, true⟩), bus.claimedNew device)) :
    ((onInterface vendorId productId (.control setup stage)).run bus).2.traffic = bus.traffic ++
      [.control device setup setup.length.toNat 4000 (if setup.isInput then [] else stage)] := by
  have logged := controlRequest_logs ⟨bus.nextOn device, 0, pipes, true⟩ setup stage
    (bus.claimedNew device) whole
  rcases operates : (InterfaceTask.control setup stage).run vendorId productId
    (⟨bus.nextOn device, 0, pipes, true⟩ : BusInterface) (bus.claimedNew device) with
    ⟨result, operated⟩
  obtain ⟨-, shut⟩ := InterfaceTask.shut_operated _ unheld pipes operates
  have asked : operated.calls = (bus.claimedNew device).calls ++ [.control device setup
      setup.length.toNat 4000 (if setup.isInput then [] else stage)] :=
    (congrArg (fun outcome => outcome.2.calls) operates).symm.trans logged
  have claimed : (bus.claimedNew device).calls =
    bus.calls ++ [.openDevice device, .autoDetach device, .claim device 0] := rfl
  rw [asked, claimed, List.append_assoc, List.append_assoc, List.append_assoc] at shut
  simp only [run]
  rw [Command.withInterface_found called operates, traffic_append _ shut, List.filter_append,
    List.filter_append, closing_quiet]
  rfl

theorem control_sends {bus : Bus} (fresh : bus.IsFresh) (vendorId productId : UInt16)
    {setup : Setup} {stage : Bytes} (whole : stage.length = setup.length.toNat) :
    Sends bus setup stage (.onInterface vendorId productId (.control setup stage))
      ((onInterface vendorId productId (.control setup stage)).run bus).2 := by
  have quiet := lookup_quiet bus.holds vendorId productId bus
  simp only [run]
  rcases called : Access.findInterface (σ := Bus) vendorId productId bus with ⟨answer, host⟩
  have search := findInterface_searches fresh called
  have free := findInterface_search fresh called
  rcases looked : bus.lookup bus.holds vendorId productId with ⟨ended, calls⟩
  rw [looked] at search quiet
  have opened : (onInterface vendorId productId (.control setup stage)).lookup bus = ended :=
    congrArg Prod.fst looked
  cases search with
  | failed =>
      refine .unfound (by simp [opened]) ?_
      simp only [Command.withInterface, called]
      rw [traffic_append calls rfl, quiet, List.append_nil]
  | absent =>
      refine .unfound (by simp [opened]) ?_
      simp only [Command.withInterface, called]
  | @found device known there =>
      have unheld : bus.holder? device 0 = none := by
        cases free with
        | found opens unheld => exact unheld
      exact .found opened (control_found unheld whole called)

theorem request_sends (bus : Bus) (vendorId productId : UInt16)
    {setup : Setup} {stage : Bytes} (whole : stage.length = setup.length.toNat) :
    Sends bus setup stage (.onDevice vendorId productId setup stage)
      ((onDevice vendorId productId setup stage).run bus).2 := by
  simp only [run, Command.withDevice, findDevice_eq]
  rcases looked : bus.lookupDevice vendorId productId with ⟨answer, calls⟩
  have opened : (onDevice vendorId productId setup stage).lookup bus = answer :=
    congrArg Prod.fst looked
  rcases answer with failure | _ | device
  · have quiet := lookupDevice_quiet vendorId productId bus
    rw [looked] at quiet
    refine .unfound (by simp [opened]) ?_
    rw [traffic_append calls rfl, quiet, List.append_nil]
  · exact .unfound (by simp [opened]) rfl
  · have logged := deviceRequest_logs (bus.nextOn device) setup stage (bus.opened device) whole
    refine .found opened ?_
    have closed : (Access.closeDevice (σ := Bus) (bus.nextOn device)
        (Access.request (σ := Bus) (bus.nextOn device) setup stage (bus.opened device)).2).calls =
          (Access.request (σ := Bus) (bus.nextOn device) setup stage (bus.opened device)).2.calls ++
            [.closeDevice device] := rfl
    have opens : (bus.opened device).calls = bus.calls ++ [.openDevice device] := rfl
    rw [logged, opens, List.append_assoc, List.append_assoc] at closed
    exact traffic_append _ closed

end Task

namespace Command

variable {command : Command} {config : Config} {setup : Setup} {data : Option String}

theorem check_staging {task : Task} (staging : command.staging? = some (setup, data))
    (checked : command.check config = .ok task) :
    ∃ vendorId productId stage, dataStage setup data = .ok stage ∧
      (task = .onInterface vendorId productId (.control setup stage) ∨
        task = .onDevice vendorId productId setup stage) := by
  cases command with
  | list | probe | read | write => cases staging
  | control target setup data | request target setup data =>
      cases staging
      simp only [check] at checked
      cases resolved : target.resolve config with
      | error fault =>
          rw [resolved] at checked
          cases checked
      | ok ids =>
          rw [resolved] at checked
          cases staged : dataStage setup data with
          | error fault =>
              rw [staged] at checked
              cases checked
          | ok stage =>
              rw [staged] at checked
              cases checked
              simp

end Command

/-- What becomes of a command with a data stage: its check fails and nothing happens, or the stage
is sent to the device that is found. -/
inductive Command.HandsOver (command : Command) (config : Config) (setup : Setup)
    (data : Option String) (world : World) : Ending × World → Prop
  | refused {fault} (checked : command.check config = .error fault) :
      HandsOver command config setup data world (.failed fault, world)
  | sent {task stage ending after} (checked : command.check config = .ok task)
      (staged : dataStage setup data = .ok stage)
      (sends : task.Sends world.bus setup stage after.bus) :
      HandsOver command config setup data world (ending, after)

theorem Program.run_handsOver {arguments : List String} {line : CommandLine} {config : Config}
    {command : Command} {setup : Setup} {data : Option String} {world : World}
    (accepted : CommandLine.ofArguments arguments = .ok line) (starts : line.Starts config world)
    (named : line.command = some command) (staging : command.staging? = some (setup, data))
    (fresh : world.bus.IsFresh) :
    command.HandsOver config setup data world (run arguments world) := by
  rw [run_eq accepted starts named]
  cases checked : command.check config with
  | error fault => exact .refused checked
  | ok task =>
      obtain ⟨vendorId, productId, stage, staged, made⟩ := Command.check_staging staging checked
      obtain ⟨given, -, padded⟩ := padded_of_dataStage staged
      refine .sent checked staged ?_
      rcases made with rfl | rfl
      · exact Task.control_sends fresh vendorId productId padded.size
      · exact Task.request_sends world.bus vendorId productId padded.size

/-- A data stage can be made out exactly if there is nothing to send or it can be sent, and it is
the given data padded to the length of the request. A run hands this stage and no other to the bus
library, once, if it finds its device. -/
theorem data_stages_are_padded (setup : Setup) (data : Option String) :
    ((∃ stage, dataStage setup data = .ok stage) ↔ IsSendable setup data) ∧
      (∀ stage, dataStage setup data = .ok stage →
        ∃ given, GivenData data given ∧ IsPadded setup.length.toNat given stage) ∧
      ∀ arguments line config command world, CommandLine.ofArguments arguments = .ok line →
        line.Starts config world → line.command = some command →
          command.staging? = some (setup, data) → world.bus.IsFresh →
            command.HandsOver config setup data world (Program.run arguments world) := by
  refine ⟨⟨?_, ?_⟩, fun stage => padded_of_dataStage, ?_⟩
  · rintro ⟨stage, staged⟩
    exact isSendable_of_dataStage staged
  · intro sendable
    obtain ⟨given, stage, -, -, staged⟩ := sendable.staged
    exact ⟨stage, staged⟩
  · intro arguments line config command world accepted starts named staging fresh
    exact Program.run_handsOver accepted starts named staging fresh

namespace Program

def shortArguments : List String :=
  ["control", "--vid", "0x0483", "--pid", "0x5740", "--request-type", "0x21", "--request", "0x20",
    "--length", "4", "--data", "aa bb"]

def shortSetup : Setup := ⟨0x21, 0x20, 0, 0, 4⟩

def shortCommand : Command := .control (.ids 0x0483 0x5740) shortSetup (some "aa bb")

def shortLine : CommandLine := ⟨none, false, none, some shortCommand⟩

theorem short_stage_is_padded :
    (run shortArguments (World.bare { devices := [{}] })).2.bus.traffic =
      [.control 0 shortSetup 4 4000 [0xaa, 0xbb, 0, 0]] := by
  have accepted : CommandLine.ofArguments shortArguments = .ok shortLine := rfl
  have starts : shortLine.Starts Config.bare (World.bare { devices := [{}] }) :=
    CommandLine.starts_bare rfl rfl rfl
  have fresh : (World.bare { devices := [{}] }).bus.IsFresh := ⟨nofun, nofun⟩
  have checked : shortCommand.check Config.bare =
    .ok (.onInterface 0x0483 0x5740 (.control shortSetup [0xaa, 0xbb, 0, 0])) := rfl
  have handed := (data_stages_are_padded shortSetup (some "aa bb")).2.2 _ _ _ _ _ accepted starts
    rfl rfl fresh
  generalize run shortArguments (World.bare { devices := [{}] }) = ended at handed ⊢
  cases handed with
  | refused faulty => cases checked.symm.trans faulty
  | sent checkedToo staged sends =>
      cases checked.symm.trans checkedToo
      have made : dataStage shortSetup (some "aa bb") = .ok [0xaa, 0xbb, 0, 0] := rfl
      cases made.symm.trans staged
      cases sends with
      | unfound missing => exact absurd rfl (missing 0)
      | found opened sent =>
          cases opened
          exact sent

end Program

end UsbHost
