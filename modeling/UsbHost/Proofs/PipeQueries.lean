import UsbHost.Proofs.Bench.Outcome
import UsbHost.Proofs.Mirror.Host

/-!
Questions about the pipes of an interface. How many there are, what one of them is like and the list
of them all are told from one table, which is that of the device. The list is put together question
by question and ends with the first one that fails.
-/

namespace UsbHost

inductive PipeQuery where
  | count
  | properties (pipe : UInt8)
deriving DecidableEq

namespace PipeQuery

def step : PipeQuery → NativeStep
  | count => .getPipeCount
  | properties _ => .getPipeProperties

def call (device : Nat) : PipeQuery → BenchCall
  | count => .pipeCount device
  | properties pipe => .pipeProperties device pipe

def inOrder (size : Nat) : List PipeQuery :=
  count :: ((List.range (size + 1)).map UInt8.ofNat).map properties

end PipeQuery

namespace PipeTable

def all (table : PipeTable) : List Pipe := .control table.controlPacketSize :: table.endpoints

def askCount (table : PipeTable) : Except NativeFault UInt8 :=
  match table.count? with
  | some count => .ok count
  | none => .error .overflow

variable {table : PipeTable}

theorem get?_eq (table : PipeTable) (pipe : UInt8) : table.get? pipe = table.all[pipe.toNat]? := by
  unfold get? all
  by_cases zero : pipe = 0
  · subst zero
    rfl
  · have positive : pipe.toNat ≠ 0 := fun none => zero (UInt8.toNat_inj.mp none)
    rw [if_neg zero, List.getElem?_cons, if_neg positive]

theorem ask_eq_ok {pipe : UInt8} {found : Pipe} :
    table.ask pipe = .ok found ↔ table.all[pipe.toNat]? = some found := by
  rw [ask, get?_eq]
  cases table.all[pipe.toNat]? with
  | none => simp
  | some other => simp

theorem ask_absent {pipe : UInt8} (absent : table.endpoints.length < pipe.toNat) :
    table.ask pipe = .error .invalidParameter := by
  have beyond : table.all[pipe.toNat]? = none := by
    rw [List.getElem?_eq_none_iff, all, List.length_cons]
    omega
  rw [ask, get?_eq, beyond]

theorem askCount_few (few : table.endpoints.length ≤ 255) :
    ∃ count, table.askCount = .ok count ∧ count.toNat = table.endpoints.length := by
  have small : table.endpoints.length < UInt8.size := by
    rw [UInt8.size]
    omega
  refine ⟨UInt8.ofNat table.endpoints.length, ?_, UInt8.toNat_ofNat_of_lt' small⟩
  rw [askCount, count?, if_pos small]

theorem askCount_many (many : 255 < table.endpoints.length) :
    table.askCount = .error .overflow := by
  rw [askCount, count?, if_neg (by omega)]

theorem ask_inOrder (few : table.endpoints.length ≤ 255) :
    List.Forall₂ (fun pipe found => table.ask pipe = .ok found)
      ((List.range (table.endpoints.length + 1)).map UInt8.ofNat) table.all := by
  rw [List.forall₂_iff_get]
  refine ⟨by simp [all], ?_⟩
  intro number asked told
  have small : number < 256 := by
    rw [all, List.length_cons] at told
    omega
  rw [ask_eq_ok]
  simp [Nat.mod_eq_of_lt small]

end PipeTable

namespace Access

variable {σ : Type} [NativeLayer σ]

def failureOf {α : Type} : Except Failure α → Option Failure
  | .error failure => some failure
  | .ok _ => none

theorem failureOf_eq_some {α : Type} {answer : Except Failure α} {failure : Failure} :
    failureOf answer = some failure ↔ answer = .error failure := by
  cases answer with
  | error other => simp [failureOf]
  | ok value => simp [failureOf]

theorem failureOf_eq_none {α : Type} {answer : Except Failure α} :
    failureOf answer = none ↔ ∃ value, answer = .ok value := by
  cases answer with
  | error other => simp [failureOf]
  | ok value => simp [failureOf]

def failure? (interface : NativeLayer.Interface σ) (host : σ) : PipeQuery → Option Failure
  | .count => failureOf (pipeCount interface host).1
  | .properties pipe => failureOf (pipeProperties interface pipe host).1

/-- A question is answered the same way however many were asked before, and `asked` is the host that
they leave. -/
structure AnswersSteadily (interface : NativeLayer.Interface σ) (asked : List PipeQuery → σ)
    (count : Except Failure UInt8) (properties : UInt8 → Except Failure Pipe) : Prop where
  count : ∀ before, pipeCount interface (asked before) = (count, asked (before ++ [.count]))
  properties : ∀ before pipe, pipeProperties interface pipe (asked before) =
    (properties pipe, asked (before ++ [.properties pipe]))

namespace AnswersSteadily

variable {interface : NativeLayer.Interface σ} {asked : List PipeQuery → σ}
  {count : Except Failure UInt8} {properties : UInt8 → Except Failure Pipe}

theorem queryPipes_ok (steady : AnswersSteadily interface asked count properties)
    {pipes : List UInt8} {found : List Pipe}
    (answered : List.Forall₂ (fun pipe described => properties pipe = .ok described) pipes found)
    (before : List PipeQuery) :
    queryPipes interface pipes (asked before) =
      (.ok found, asked (before ++ pipes.map .properties)) := by
  induction answered generalizing before with
  | nil => simp [queryPipes]
  | cons first answered ih =>
      rw [queryPipes, steady.properties, first]
      simp only [ih, List.append_assoc]
      rfl

theorem queryPipes_error (steady : AnswersSteadily interface asked count properties)
    {earlier later : List UInt8} {pipe : UInt8} {failure : Failure}
    (answered : ∀ other ∈ earlier, ∃ described, properties other = .ok described)
    (failed : properties pipe = .error failure) (before : List PipeQuery) :
    queryPipes interface (earlier ++ pipe :: later) (asked before) =
      (.error failure, asked (before ++ (earlier ++ [pipe]).map .properties)) := by
  induction earlier generalizing before with
  | nil =>
      rw [List.nil_append, queryPipes, steady.properties, failed]
      rfl
  | cons first earlier ih =>
      obtain ⟨described, told⟩ := answered first List.mem_cons_self
      have rest := fun other member => answered other (List.mem_cons_of_mem first member)
      rw [List.cons_append, queryPipes, steady.properties, told]
      simp only [ih rest, List.append_assoc]
      rfl

theorem failure?_count (steady : AnswersSteadily interface asked count properties)
    (before : List PipeQuery) : failure? interface (asked before) .count = failureOf count := by
  rw [failure?, steady.count]

theorem failure?_properties (steady : AnswersSteadily interface asked count properties)
    (before : List PipeQuery) (pipe : UInt8) :
    failure? interface (asked before) (.properties pipe) = failureOf (properties pipe) := by
  rw [failure?, steady.properties]

end AnswersSteadily

structure TellsPipes (table : PipeTable) (interface : NativeLayer.Interface σ) (host : σ)
    (asked : List PipeQuery → σ) : Prop where
  counted : table.endpoints.length ≤ 255 → ∃ count : UInt8,
    count.toNat = table.endpoints.length ∧ pipeCount interface host = (.ok count, asked [.count])
  described : ∀ (pipe : UInt8) found, (pipeProperties interface pipe host).1 = .ok found ↔
    table.all[pipe.toNat]? = some found
  absent : ∀ pipe : UInt8, table.endpoints.length < pipe.toNat →
    (pipeProperties interface pipe host).1 =
      .error (.native .getPipeProperties .invalidParameter)
  listed : table.endpoints.length ≤ 255 →
    pipes interface host = (.ok table.all, asked (PipeQuery.inOrder table.endpoints.length))

structure Overflows (interface : NativeLayer.Interface σ) (host : σ)
    (asked : List PipeQuery → σ) : Prop where
  uncounted : pipeCount interface host = (.error (.native .getPipeCount .overflow), asked [.count])
  unlisted : pipes interface host = (.error (.native .getPipeCount .overflow), asked [.count])

def StopsAtFailure (size : Nat) (interface : NativeLayer.Interface σ) (host : σ)
    (asked : List PipeQuery → σ) : Prop :=
  ∀ earlier query later failure, PipeQuery.inOrder size = earlier ++ query :: later →
    (∀ other ∈ earlier, failure? interface host other = none) →
    failure? interface host query = some failure →
    pipes interface host = (.error failure, asked (earlier ++ [query]))

namespace AnswersSteadily

variable {interface : NativeLayer.Interface σ} {asked : List PipeQuery → σ}
  {count : Except Failure UInt8} {properties : UInt8 → Except Failure Pipe}

theorem stopsAtFailure (steady : AnswersSteadily interface asked count properties) {size : Nat}
    (sized : ∀ number, count = .ok number → number.toNat = size) :
    StopsAtFailure size interface (asked []) asked := by
  intro earlier query later failure split passed failed
  cases earlier with
  | nil =>
      cases split
      rw [steady.failure?_count, failureOf_eq_some] at failed
      rw [pipes, steady.count, failed]
  | cons first earlier =>
      obtain ⟨rfl, rest⟩ := List.cons.inj split
      obtain ⟨number, counted⟩ := failureOf_eq_none.mp
        (steady.failure?_count [] ▸ passed .count List.mem_cons_self)
      -- The questions after the count are those that the list of pipes is made of.
      obtain ⟨asks, others, numbers, rfl, next⟩ := List.map_eq_append_iff.mp rest
      obtain ⟨pipe, unasked, rfl, rfl, rfl⟩ := List.map_eq_cons_iff.mp next
      rw [steady.failure?_properties, failureOf_eq_some] at failed
      have answered : ∀ other ∈ asks, ∃ described, properties other = .ok described := by
        intro other member
        have clear := passed (.properties other)
          (List.mem_cons_of_mem _ (List.mem_map_of_mem member))
        rwa [steady.failure?_properties, failureOf_eq_none] at clear
      rw [pipes, steady.count, counted]
      simp only [sized number counted, numbers]
      rw [steady.queryPipes_error answered failed]
      simp

theorem tellsPipes {table : PipeTable}
    (steady : AnswersSteadily interface asked (atStep .getPipeCount table.askCount)
      fun pipe => atStep .getPipeProperties (table.ask pipe)) :
    TellsPipes table interface (asked []) asked where
  counted few := by
    obtain ⟨count, counted, length⟩ := PipeTable.askCount_few few
    refine ⟨count, length, ?_⟩
    rw [steady.count, counted]
    rfl
  described pipe found := by
    rw [steady.properties, ← PipeTable.ask_eq_ok]
    cases table.ask pipe with
    | error cause => simp [atStep]
    | ok other => simp [atStep]
  absent pipe beyond := by
    rw [steady.properties, PipeTable.ask_absent beyond]
    rfl
  listed few := by
    obtain ⟨count, counted, length⟩ := PipeTable.askCount_few few
    have told : List.Forall₂
        (fun pipe found => atStep .getPipeProperties (table.ask pipe) = .ok found)
        ((List.range (table.endpoints.length + 1)).map UInt8.ofNat) table.all :=
      (PipeTable.ask_inOrder few).imp fun pipe found answered => by rw [answered]; rfl
    rw [pipes, steady.count, counted]
    simp only [atStep, length]
    rw [steady.queryPipes_ok told]
    simp [PipeQuery.inOrder]

theorem overflows (steady : AnswersSteadily interface asked count properties)
    (many : count = .error (.native .getPipeCount .overflow)) :
    Overflows interface (asked []) asked where
  uncounted := by
    rw [steady.count, many]
    rfl
  unlisted := by
    rw [pipes, steady.count, many]
    rfl

end AnswersSteadily

def unlessTold {α : Type} (told : Option NativeFault) (answer : Except NativeFault α) :
    Except NativeFault α :=
  match told with
  | some cause => .error cause
  | none => answer

/-- The answers about the pipes of an interface come from one table, whatever faults are told. -/
structure AnswersFrom (table : PipeTable) (told : NativeStep → Option NativeFault)
    (interface : NativeLayer.Interface σ) (host : σ) (asked : List PipeQuery → σ) : Prop where
  clear : told .getPipeCount = none → told .getPipeProperties = none →
    TellsPipes table interface host asked
  overflows : told .getPipeCount = none → 255 < table.endpoints.length →
    Overflows interface host asked
  injected : ∀ query cause, told query.step = some cause →
    failure? interface host query = some (.native query.step cause)
  stops : StopsAtFailure table.endpoints.length interface host asked

theorem AnswersSteadily.answersFrom {interface : NativeLayer.Interface σ}
    {asked : List PipeQuery → σ} {table : PipeTable} (told : NativeStep → Option NativeFault)
    (steady : AnswersSteadily interface asked
      (atStep .getPipeCount (unlessTold (told .getPipeCount) table.askCount))
      fun pipe =>
        atStep .getPipeProperties (unlessTold (told .getPipeProperties) (table.ask pipe))) :
    AnswersFrom table told interface (asked []) asked where
  clear countable describable := by
    rw [countable, describable] at steady
    exact steady.tellsPipes
  overflows countable many := by
    refine steady.overflows ?_
    rw [countable, unlessTold, PipeTable.askCount_many many]
    rfl
  injected query cause fails := by
    cases query with
    | count =>
        rw [steady.failure?_count, failureOf_eq_some]
        change told .getPipeCount = some cause at fails
        rw [fails]
        rfl
    | properties pipe =>
        rw [steady.failure?_properties, failureOf_eq_some]
        change told .getPipeProperties = some cause at fails
        rw [fails]
        rfl
  stops := by
    refine steady.stopsAtFailure ?_
    -- A count that is told is the number of the pipes: a fault gives none, and so do too many.
    intro number counted
    cases countable : told .getPipeCount with
    | some cause =>
        rw [countable] at counted
        cases counted
    | none =>
        rw [countable, unlessTold] at counted
        by_cases few : table.endpoints.length ≤ 255
        · obtain ⟨count, answered, length⟩ := PipeTable.askCount_few few
          rw [answered] at counted
          cases counted
          exact length
        · rw [PipeTable.askCount_many (by omega)] at counted
          cases counted

end Access

namespace Bench

def questioned (device : Nat) (bench : Bench) (queries : List PipeQuery) : Bench :=
  bench.recordAll (queries.map (PipeQuery.call device))

def AnswersPipes (interface : BenchInterface) (bench : Bench) : Prop :=
  ∃ known, bench.devices[interface.device]? = some known ∧
    Access.AnswersFrom known.pipes bench.fault? interface bench (bench.questioned interface.device)

variable {bench : Bench} {interface : BenchInterface}

theorem answersSteadily {known : BenchDevice}
    (there : bench.devices[interface.device]? = some known) :
    Access.AnswersSteadily interface (bench.questioned interface.device)
      (Access.atStep .getPipeCount
        (Access.unlessTold (bench.fault? .getPipeCount) known.pipes.askCount))
      fun pipe => Access.atStep .getPipeProperties
        (Access.unlessTold (bench.fault? .getPipeProperties) (known.pipes.ask pipe)) where
  count before := by
    simp only [Access.pipeCount, NativeLayer.pipeCount, pipeCount, observe_eq, questioned,
      fault?_recordAll, recordAll_recordAll, device?, devices_recordAll, there, List.map_append]
    rfl
  properties before pipe := by
    simp only [Access.pipeProperties, NativeLayer.pipeProperties, observe_eq, questioned,
      fault?_recordAll, recordAll_recordAll, pipe?, device?, devices_recordAll, there,
      List.map_append]
    rfl

theorem answersPipes (inRange : interface.device < bench.devices.length) :
    bench.AnswersPipes interface := by
  have there := List.getElem?_eq_getElem inRange
  have unasked : bench.questioned interface.device [] = bench := by simp [questioned, recordAll]
  refine ⟨_, there, ?_⟩
  have answers := (answersSteadily there).answersFrom bench.fault?
  rwa [unasked] at answers

end Bench

namespace Bus

def AnswersPipes (interface : BusInterface) (bus : Bus) : Prop :=
  ∃ known, bus.devices[interface.handle.device]? = some known ∧
    known.pipes.all =
      .control known.controlPacketSize.toUInt16 :: known.endpoints.map EndpointDescriptor.toPipe ∧
    Access.AnswersFrom known.pipes (fun _ => none) interface bus fun _ => bus

theorem answersSteadily (interface : BusInterface) (bus : Bus) :
    Access.AnswersSteadily interface (fun _ => bus)
      (Access.atStep .getPipeCount (Access.unlessTold none interface.pipes.askCount))
      fun pipe => Access.atStep .getPipeProperties
        (Access.unlessTold none (interface.pipes.ask pipe)) where
  count before := by
    simp only [Access.pipeCount, NativeLayer.pipeCount, pipeCount, PipeTable.askCount]
    cases interface.pipes.count? with
    | none => rfl
    | some count => rfl
  properties before pipe := pipeProperties_eq interface pipe bus

theorem answersPipes {interface : BusInterface} {bus : Bus} {known : BusDevice}
    (there : bus.devices[interface.handle.device]? = some known)
    (same : interface.pipes = known.pipes) : bus.AnswersPipes interface := by
  refine ⟨known, there, ?_, ?_⟩
  · rw [PipeTable.all, BusDevice.pipes_endpoints]
    rfl
  · rw [← same]
    exact (answersSteadily interface bus).answersFrom fun _ => none

end Bus

/-- Every open interface, kept by a program or in other hands, is questioned about the pipes of its
device, on either host and whatever happens to the host in between. -/
structure PipesAgree : Prop where
  keptOnBench : ∀ (host : Bench) machine events handle (interface : BenchInterface),
    ((Session.start host machine).advance events).interfaces.get? handle = some interface →
      ((Session.start host machine).advance events).host.AnswersPipes interface
  keptOnBus : ∀ devices machine events handle (interface : BusInterface),
    ((Session.start ({ devices } : Bus) machine).advance events).interfaces.get? handle =
      some interface →
      ((Session.start ({ devices } : Bus) machine).advance events).host.AnswersPipes interface
  foundOnBench : ∀ (bench later : Bench) vendorId productId (interface : BenchInterface),
    (Access.findInterface vendorId productId bench).1 = .ok (some interface) →
      later.devices.map BenchDevice.pipes = bench.devices.map BenchDevice.pipes →
      later.AnswersPipes interface
  foundOnBus : ∀ (bus later : Bus) vendorId productId (interface : BusInterface), bus.IsFresh →
    (Access.findInterface vendorId productId bus).1 = .ok (some interface) →
      later.devices.map BusDevice.pipes = bus.devices.map BusDevice.pipes →
      later.AnswersPipes interface

theorem pipe_queries_agree : PipesAgree where
  keptOnBench host machine events handle interface live :=
    Bench.answersPipes (((Session.Sound.start host machine).advance events).interfaces _ _ live)
  keptOnBus devices machine events handle interface live := by
    obtain ⟨known, there, same⟩ := Session.hasPipes devices machine events handle interface live
    exact Bus.answersPipes there same
  foundOnBench bench later vendorId productId interface found same := by
    obtain ⟨calls, search, -⟩ := Bench.findInterface_search (Prod.ext found rfl)
    have size := congrArg List.length same
    rw [List.length_map, List.length_map] at size
    cases search with
    | opened resolved opens => exact Bench.answersPipes (size ▸ resolved.inRange)
  foundOnBus bus later vendorId productId interface fresh found same := by
    rcases called : Access.findInterface vendorId productId bus with ⟨answer, host⟩
    rw [called] at found
    cases found
    have search := Bus.findInterface_searches fresh called
    generalize bus.lookup bus.holds vendorId productId = looked at search
    cases search with
    | found there =>
        rename_i device known
        have kept := congrArg (·[device]?) same
        simp only [List.getElem?_map, there, Option.map_some, Option.map_eq_some_iff] at kept
        obtain ⟨other, otherThere, pipes⟩ := kept
        exact Bus.answersPipes otherThere pipes.symm

example : Access.pipes (σ := Bench) (⟨0, true⟩ : BenchInterface)
    (Bench.fail .getPipeProperties .pipe { devices := [.probe] }) =
      (.error (.native .getPipeProperties .pipe),
        (Bench.fail .getPipeProperties .pipe { devices := [.probe] }).questioned 0
          [.count, .properties 0]) := by decide

end UsbHost
