import UsbHost.Command.Program

/-!
Commands as a check and a task. Checking a command takes its configuration and no device; the task
that is left has no name and no text to be made out any more. A run that gets as far as its command
is the check of that command and then its task.
-/

namespace UsbHost

inductive InterfaceTask where
  | probe (isJson : Bool)
  | control (setup : Setup) (buffer : Bytes)
  | read (pipe : UInt8) (size : Nat)
  | write (pipe : UInt8) (data : Bytes)
deriving DecidableEq

inductive Task where
  | list (isJson : Bool)
  | onInterface (vendorId productId : UInt16) (task : InterfaceTask)
  | onDevice (vendorId productId : UInt16) (setup : Setup) (buffer : Bytes)
deriving DecidableEq

section

variable {σ : Type} [NativeLayer σ]

def InterfaceTask.run (vendorId productId : UInt16) (interface : NativeLayer.Interface σ)
    (host : σ) : InterfaceTask → Except Failure String × σ
  | probe isJson =>
    match Access.pipes interface host with
    | (answer, host) => (answer.map (Report.pipeTable isJson vendorId productId), host)
  | control setup buffer =>
    match Command.filled (Access.control interface setup buffer host) with
    | (answer, host) => (answer.map (Report.controlData setup), host)
  | read pipe size =>
    match Command.filled (Access.read interface pipe (Bytes.zeros size) host) with
    | (answer, host) => (answer.map fun data => Report.line (Bytes.spaced data), host)
  | write pipe data =>
    match Access.write interface pipe data host with
    | (answer, host) => (answer.map fun () => Report.written pipe data, host)

def Task.request (setup : Setup) (buffer : Bytes) (device : NativeLayer.Device σ) (host : σ) :
    Except Failure String × σ :=
  match Access.request device setup buffer host with
  | ((answer, buffer), host) =>
    ((answer.map fun () => buffer).map (Report.requestData setup), host)

def Task.run (host : σ) : Task → Except RunFault String × σ
  | list isJson =>
    match Access.listDevices host with
    | (answer, host) => ((Command.ofUsb answer).map (Report.deviceList isJson), host)
  | onInterface vendorId productId task =>
    Command.withInterface vendorId productId
      (fun interface host => task.run vendorId productId interface host) host
  | onDevice vendorId productId setup buffer =>
    Command.withDevice vendorId productId (request setup buffer) host

end

namespace Command

def check (config : Config) : Command → Except RunFault Task
  | list isJson => .ok (.list isJson)
  | probe target isJson => do
    let (vendorId, productId) ← target.resolve config
    return .onInterface vendorId productId (.probe isJson)
  | control target setup data => do
    let (vendorId, productId) ← target.resolve config
    let buffer ← dataStage setup data
    return .onInterface vendorId productId (.control setup buffer)
  | read target pipe size => do
    let (vendorId, productId) ← target.resolve config
    return .onInterface vendorId productId (.read pipe size)
  | write target pipe data => do
    let (vendorId, productId) ← target.resolve config
    let bytes ← (HexData.read data).mapError .badData
    return .onInterface vendorId productId (.write pipe bytes)
  | request target setup data => do
    let (vendorId, productId) ← target.resolve config
    let buffer ← dataStage setup data
    return .onDevice vendorId productId setup buffer

variable {σ : Type} [NativeLayer σ]

theorem ofUsb_map {α β : Type} (change : α → β) (answer : Except Failure α) :
    ofUsb (answer.map change) = (ofUsb answer).map change := by
  cases answer with
  | error failure => rfl
  | ok value => rfl

theorem withInterface_map {α β : Type} (vendorId productId : UInt16)
    (operation : NativeLayer.Interface σ → σ → Except Failure α × σ) (change : α → β) (host : σ) :
    withInterface vendorId productId
        (fun interface host =>
          ((operation interface host).1.map change, (operation interface host).2)) host =
      ((withInterface vendorId productId operation host).1.map change,
        (withInterface vendorId productId operation host).2) := by
  unfold withInterface
  rcases Access.findInterface vendorId productId host with ⟨answer, found⟩
  rcases answer with failure | _ | interface
  · rfl
  · rfl
  · dsimp only
    rcases operation interface found with ⟨result, reached⟩
    dsimp only
    rcases Access.closeInterface interface reached with ⟨ending, left⟩
    cases ending with
    | error failure =>
        cases result with
        | error earlier => rfl
        | ok value => rfl
    | ok closed => rw [ofUsb_map]

theorem withDevice_map {α β : Type} (vendorId productId : UInt16)
    (operation : NativeLayer.Device σ → σ → Except Failure α × σ) (change : α → β) (host : σ) :
    withDevice vendorId productId
        (fun device host => ((operation device host).1.map change, (operation device host).2))
        host =
      ((withDevice vendorId productId operation host).1.map change,
        (withDevice vendorId productId operation host).2) := by
  unfold withDevice
  rcases Access.findDevice vendorId productId host with ⟨answer, found⟩
  rcases answer with failure | _ | device
  · rfl
  · rfl
  · dsimp only
    rw [ofUsb_map]

/-- A command is its check and then its task; one that does not pass the check leaves the host
alone. -/
theorem perform_eq (command : Command) (config : Config) (host : σ) :
    command.perform config host =
      match command.check config with
      | .error fault => (.error fault, host)
      | .ok task => task.run host := by
  cases command with
  | list isJson => rfl
  | probe target isJson =>
      simp only [perform, onTarget, check]
      cases target.resolve config with
      | error fault => rfl
      -- A task makes its text before the interface is closed, a command makes it after.
      | ok ids => exact (withInterface_map ids.1 ids.2 _ _ host).symm
  | control target setup data =>
      simp only [perform, onTarget, check]
      cases target.resolve config with
      | error fault => rfl
      | ok ids =>
          cases dataStage setup data with
          | error fault => rfl
          | ok buffer => exact (withInterface_map ids.1 ids.2 _ _ host).symm
  | read target pipe size =>
      simp only [perform, onTarget, check]
      cases target.resolve config with
      | error fault => rfl
      | ok ids => exact (withInterface_map ids.1 ids.2 _ _ host).symm
  | write target pipe data =>
      simp only [perform, onTarget, check]
      cases target.resolve config with
      | error fault => rfl
      | ok ids =>
          cases HexData.read data with
          | error cause => rfl
          | ok bytes => exact (withInterface_map ids.1 ids.2 _ _ host).symm
  | request target setup data =>
      simp only [perform, onTarget, check]
      cases target.resolve config with
      | error fault => rfl
      | ok ids =>
          cases dataStage setup data with
          | error fault => rfl
          | ok buffer => exact (withDevice_map ids.1 ids.2 _ _ host).symm

end Command

/-- A run gets as far as its command: a configuration is loaded, logging is set up, and the bus
library starts. A line that saves the standard configuration does none of this. -/
structure CommandLine.Starts (line : CommandLine) (config : Config) (world : World) : Prop where
  runs : line.saveConfig = false
  loads : line.loadConfig world = .ok config
  logs : LogFilter.choose world.logFilter (line.logLevel.getD config.logLevel) = .ok ()
  starts : world.bus.start = .ok ()

def Ending.ofAnswer : Except RunFault String → Ending
  | .ok output => .finished output
  | .error fault => .failed fault

theorem CommandLine.Starts.run_eq {line : CommandLine} {config : Config} {world : World}
    {command : Command} (starts : line.Starts config world) (named : line.command = some command) :
    line.run world =
      ((command.perform config world.bus).1,
        { world with bus := (command.perform config world.bus).2 }) := by
  simp only [run, starts.runs, Bool.false_eq_true, if_false, starts.loads, starts.logs, runCommand,
    named, starts.starts]

theorem Program.run_eq {arguments : List String} {line : CommandLine} {config : Config}
    {world : World} {command : Command} (accepted : CommandLine.ofArguments arguments = .ok line)
    (starts : line.Starts config world) (named : line.command = some command) :
    run arguments world =
      match command.check config with
      | .error fault => (.failed fault, world)
      | .ok task =>
        (.ofAnswer (task.run world.bus).1, { world with bus := (task.run world.bus).2 }) := by
  unfold run
  simp only [accepted, starts.run_eq named, command.perform_eq]
  cases command.check config with
  | error fault => rfl
  | ok task =>
      dsimp only
      cases (task.run world.bus).1 with
      | error fault => rfl
      | ok output => rfl

theorem LogFilter.check_empty : check "" = .ok () := by
  have unsplit : "".splitOn "," = [""] := by
    rw [String.splitOn, if_neg (by decide), String.splitOnAux, if_pos (by decide)]
    rfl
  rw [check, unsplit]
  rfl

theorem LogFilter.choose_empty (level : String) : choose (some "") level = .ok () := by
  rw [choose, Option.any_some, check_empty]
  rfl

def World.bare (bus : Bus) : World where
  surroundings := { home := "/" }
  logFilter := some ""
  files := { working := [] }
  bus := bus

def Config.bare : Config := loadOrDefault { home := "/" } { working := [] }

theorem CommandLine.starts_bare {line : CommandLine} {bus : Bus} (runs : line.saveConfig = false)
    (unnamed : line.config = none) (starts : bus.start = .ok ()) :
    line.Starts Config.bare (World.bare bus) where
  runs := runs
  loads := by simp only [loadConfig, unnamed, World.bare, Config.bare]
  logs := LogFilter.choose_empty _
  starts := starts

end UsbHost
