import UsbHost.Proofs.Command.Target
import UsbHost.Proofs.Command.Task

/-!
Arguments that make no sense. A run is refused over its target, over data where none is sent, over
data that cannot be read, and over data that is too long, in this order; and none of it depends on
the bus, which is left as it was.
-/

namespace UsbHost

theorem CommandLine.validate_of_loadConfig {line : CommandLine} {world : World} {config : Config}
    (loaded : line.loadConfig world = .ok config) : config.validate = .ok () := by
  unfold loadConfig at loaded
  split at loaded
  · cases loaded
    exact (Config.IsObtained.defaulted _ _).validate
  split at loaded
  · cases loaded
  · rename_i expanded
    cases loaded
    exact (Config.IsObtained.expanded expanded).validate

theorem Target.resolve_cases {config : Config} (valid : config.validate = .ok ())
    (target : Target) :
    (∃ ids, target.resolve config = .ok ids ∧
        ∀ name, target = .named name → ∃ entry ∈ config.devices, entry.name = name) ∨
      ∃ name, target = .named name ∧ (∀ entry ∈ config.devices, entry.name ≠ name) ∧
        target.resolve config = .error (.unknownAlias name) := by
  cases target with
  | ids vendorId productId => exact Or.inl ⟨_, rfl, nofun⟩
  | named name =>
      have wellFormed := Config.validate_eq_ok_iff.mp valid
      rcases resolve_named_cases wellFormed name with
        ⟨entry, ids, one, -, resolved⟩ | ⟨none, failed⟩
      · refine Or.inl ⟨ids, resolved, ?_⟩
        rintro other ⟨⟩
        have member : entry ∈ config.devicesNamed name := by simp [one]
        exact ⟨entry, Config.mem_devicesNamed.mp member⟩
      · refine Or.inr ⟨name, rfl, ?_, failed⟩
        intro entry member named
        have present := Config.mem_devicesNamed.mpr ⟨member, named⟩
        rw [none] at present
        cases present

namespace Command

def target? : Command → Option Target
  | list _ => none
  | probe target _ | control target _ _ | read target _ _ | write target _ _
  | request target _ _ => some target

def staged? : Command → Option (Setup × String)
  | control _ setup data | request _ setup data => data.map fun text => (setup, text)
  | list _ | probe _ _ | read _ _ _ | write _ _ _ => none

def data? : Command → Option String
  | control _ _ data | request _ _ data => data
  | write _ _ data => some data
  | list _ | probe _ _ | read _ _ _ => none

/-- What can be wrong with the arguments of a command, each with its error. -/
inductive Misuses (config : Config) (command : Command) : RunFault → Prop
  | unknownAlias {name} (named : command.target? = some (.named name))
      (unknown : ∀ entry ∈ config.devices, entry.name ≠ name) :
      Misuses config command (.unknownAlias name)
  | dataOnInput {setup text} (given : command.staged? = some (setup, text))
      (input : setup.isInput = true) : Misuses config command .dataOnInput
  | badData {text cause} (given : command.data? = some text)
      (unreadable : HexData.read text = .error cause) : Misuses config command (.badData cause)
  | dataTooLong {setup text data} (given : command.staged? = some (setup, text))
      (readable : HexData.read text = .ok data) (long : setup.length.toNat < data.length) :
      Misuses config command (.dataTooLong data.length setup.length.toNat)

end Command

/-- When something is found to be wrong with the arguments of a command. -/
def RunFault.turn : RunFault → Nat
  | unknownAlias _ => 0
  | dataOnInput => 1
  | badData _ => 2
  | _ => 3

namespace Command

def MisusedFirst (config : Config) (command : Command) (first : RunFault) : Prop :=
  command.Misuses config first ∧
    ∀ other, command.Misuses config other → first.turn ≤ other.turn

def IsKnown (config : Config) (command : Command) : Prop :=
  ∀ name, command.target? = some (.named name) → ∃ entry ∈ config.devices, entry.name = name

def IsSent (command : Command) : Prop :=
  ∀ setup text, command.staged? = some (setup, text) → setup.isInput = false

def IsReadable (command : Command) : Prop :=
  ∀ text, command.data? = some text → ∃ data, HexData.read text = .ok data

def IsRoomy (command : Command) : Prop :=
  ∀ setup text data, command.staged? = some (setup, text) → HexData.read text = .ok data →
    data.length ≤ setup.length.toNat

namespace Misuses

variable {config : Config} {command : Command} {fault : RunFault}

theorem one_le (misuses : command.Misuses config fault) (known : command.IsKnown config) :
    1 ≤ fault.turn := by
  cases misuses with
  | unknownAlias named unknown =>
      obtain ⟨entry, member, same⟩ := known _ named
      exact absurd same (unknown entry member)
  | dataOnInput | badData | dataTooLong => simp [RunFault.turn]

theorem two_le (misuses : command.Misuses config fault) (known : command.IsKnown config)
    (sent : command.IsSent) : 2 ≤ fault.turn := by
  have later := misuses.one_le known
  cases misuses with
  | unknownAlias => simp [RunFault.turn] at later
  | dataOnInput given input =>
      rw [sent _ _ given] at input
      cases input
  | badData | dataTooLong => simp [RunFault.turn]

theorem three_le (misuses : command.Misuses config fault) (known : command.IsKnown config)
    (sent : command.IsSent) (readable : command.IsReadable) : 3 ≤ fault.turn := by
  have later := misuses.two_le known sent
  cases misuses with
  | unknownAlias | dataOnInput => simp [RunFault.turn] at later
  | badData given unreadable =>
      obtain ⟨data, read⟩ := readable _ given
      cases read.symm.trans unreadable
  | dataTooLong => simp [RunFault.turn]

theorem impossible (misuses : command.Misuses config fault) (known : command.IsKnown config)
    (sent : command.IsSent) (readable : command.IsReadable) (roomy : command.IsRoomy) : False := by
  have later := misuses.three_le known sent readable
  cases misuses with
  | unknownAlias | dataOnInput | badData => simp [RunFault.turn] at later
  | dataTooLong given read long =>
      have fits := roomy _ _ _ given read
      omega

end Misuses

def ChecksTo (config : Config) (command : Command) : Except RunFault Task → Prop
  | .ok _ => ∀ fault, ¬command.Misuses config fault
  | .error first => command.MisusedFirst config first

variable {config : Config} {command : Command}

theorem ChecksTo.of_dataStage {setup : Setup} {data : Option String} {finish : Bytes → Task}
    (known : command.IsKnown config)
    (staged : command.staged? = data.map fun text => (setup, text)) (given : command.data? = data) :
    command.ChecksTo config (do
      let buffer ← dataStage setup data
      return finish buffer) := by
  cases data with
  | none =>
      refine fun fault misuses => misuses.impossible known ?_ ?_ ?_
      · intro setup text stage
        cases staged.symm.trans stage
      · intro text some
        cases given.symm.trans some
      · intro setup text data stage
        cases staged.symm.trans stage
  | some text =>
      simp only [dataStage]
      -- In the order of the checks: each that passes rules out what it looks for.
      cases input : setup.isInput with
      | true => exact ⟨.dataOnInput staged input, fun _ misuses => misuses.one_le known⟩
      | false =>
          have sent : command.IsSent := by
            intro other text stage
            cases staged.symm.trans stage
            exact input
          cases read : HexData.read text with
          | error cause => exact ⟨.badData given read, fun _ misuses => misuses.two_le known sent⟩
          | ok bytes =>
              have readable : command.IsReadable := by
                intro other same
                cases given.symm.trans same
                exact ⟨bytes, read⟩
              by_cases long : setup.length.toNat < bytes.length
              · simp only [if_pos long]
                exact ⟨.dataTooLong staged read long,
                  fun _ misuses => misuses.three_le known sent readable⟩
              · simp only [if_neg long]
                refine fun fault misuses => misuses.impossible known sent readable ?_
                intro other text data stage readToo
                cases staged.symm.trans stage
                cases read.symm.trans readToo
                omega

theorem ChecksTo.of_resolve {target : Target} (valid : config.validate = .ok ())
    (named : command.target? = some target) {next : UInt16 × UInt16 → Except RunFault Task}
    (rest : ∀ ids, command.IsKnown config → command.ChecksTo config (next ids)) :
    command.ChecksTo config (target.resolve config >>= next) := by
  rcases target.resolve_cases valid with ⟨ids, resolved, known⟩ | ⟨name, rfl, unknown, failed⟩
  · rw [resolved]
    refine rest ids ?_
    intro name same
    exact known name (Option.some.inj (named.symm.trans same))
  · rw [failed]
    exact ⟨.unknownAlias named unknown, fun _ _ => Nat.zero_le _⟩

theorem check_checksTo (valid : config.validate = .ok ()) (command : Command) :
    command.ChecksTo config (command.check config) := by
  cases command with
  | list isJson => exact fun fault misuses => misuses.impossible nofun nofun nofun nofun
  | probe target isJson | read target pipe size =>
      refine .of_resolve valid rfl fun ids known => ?_
      exact fun fault misuses => misuses.impossible known nofun nofun nofun
  | control target setup data | request target setup data =>
      exact .of_resolve valid rfl fun ids known => .of_dataStage known rfl rfl
  | write target pipe data =>
      refine .of_resolve valid rfl fun ids known => ?_
      cases read : HexData.read data with
      | error cause => exact ⟨.badData rfl read, fun _ misuses => misuses.two_le known nofun⟩
      | ok bytes =>
          refine fun fault misuses => misuses.impossible known nofun ?_ nofun
          rintro text ⟨⟩
          exact ⟨bytes, read⟩

theorem check_misused {fault : RunFault} (valid : config.validate = .ok ())
    (misuses : command.Misuses config fault) :
    ∃ first, command.check config = .error first ∧ command.MisusedFirst config first := by
  have checks := check_checksTo valid command
  cases checked : command.check config with
  | error first =>
      rw [checked] at checks
      exact ⟨first, rfl, checks⟩
  | ok task =>
      rw [checked] at checks
      exact absurd misuses (checks fault)

end Command

/-- A run whose arguments make no sense fails with the first thing that is wrong, opens nothing,
asks for nothing and changes nothing; and it fails in the same way on every bus. -/
theorem Program.misused_run_is_refused {arguments : List String} {line : CommandLine}
    {config : Config} {command : Command} {world : World} {fault : RunFault}
    (accepted : CommandLine.ofArguments arguments = .ok line) (starts : line.Starts config world)
    (named : line.command = some command) (misuses : command.Misuses config fault) :
    ∃ first, command.MisusedFirst config first ∧ run arguments world = (.failed first, world) ∧
      ∀ bus : Bus, bus.start = .ok () →
        run arguments { world with bus } = (.failed first, { world with bus }) := by
  obtain ⟨first, checked, misused⟩ :=
    Command.check_misused (CommandLine.validate_of_loadConfig starts.loads) misuses
  refine ⟨first, misused, ?_, ?_⟩
  · rw [run_eq accepted starts named, checked]
  · intro bus started
    have alike : line.Starts config { world with bus } :=
      ⟨starts.runs, starts.loads, starts.logs, started⟩
    rw [run_eq accepted alike named, checked]

namespace Program

def crossedArguments : List String :=
  ["control", "--vid", "0x0483", "--pid", "0x5740", "--request-type", "0x80", "--request", "6",
    "--length", "1", "--data", "zz"]

def crossedCommand : Command := .control (.ids 0x0483 0x5740) ⟨0x80, 6, 0, 0, 1⟩ (some "zz")

def crossedLine : CommandLine := ⟨none, false, none, some crossedCommand⟩

theorem crossed_run_is_refused :
    run crossedArguments (World.bare { devices := [{}] }) =
      (.failed .dataOnInput, World.bare { devices := [{}] }) := by
  have accepted : CommandLine.ofArguments crossedArguments = .ok crossedLine := rfl
  have starts : crossedLine.Starts Config.bare (World.bare { devices := [{}] }) :=
    CommandLine.starts_bare rfl rfl rfl
  have staged : crossedCommand.staged? = some (⟨0x80, 6, 0, 0, 1⟩, "zz") := rfl
  have crossed : crossedCommand.Misuses Config.bare .dataOnInput := .dataOnInput staged (by decide)
  obtain ⟨first, ⟨misuses, earliest⟩, ran, -⟩ :=
    misused_run_is_refused accepted starts rfl crossed
  have early := earliest _ crossed
  cases misuses with
  | unknownAlias named => cases named
  | dataOnInput => exact ran
  | badData | dataTooLong => simp [RunFault.turn] at early

end Program

end UsbHost
