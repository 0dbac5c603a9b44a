import UsbHost.Words.Run

/-!
Runs of words. Between two words the program may move any cells and bytes about, and the host may
change below. A run leaves a history, one step for each word, and the history tells which
identifiers were handed out and which were closed.
-/

namespace UsbHost

/-- What may change below the words between two of them. -/
class ChangingHost (σ : Type) where
  Change : Type
  change : Change → σ → σ

inductive Event (σ : Type) [ChangingHost σ] where
  | word (word : Word)
  | machine (machine : Machine)
  | change (change : ChangingHost.Change σ)

/-- Interfaces and whole devices are kept in tables of their own, each with its own identifiers. -/
inductive HandleKind where
  | interface
  | device
deriving DecidableEq

namespace HandleKind

def finding : HandleKind → Word
  | interface => .findInterface
  | device => .findDevice

def closing : HandleKind → Word
  | interface => .closeInterface
  | device => .closeDevice

def criteria (vendorId productId : UInt16) : HandleKind → Criteria
  | interface => .interface vendorId productId
  | device => .device vendorId productId

end HandleKind

namespace Word

def kind? : Word → Option HandleKind
  | findInterface | findDevice => none
  | closeInterface | control | pipeProperties | read | write => some .interface
  | closeDevice | request => some .device

def takeHandle : Word → Take (Option Cell)
  | findInterface | findDevice => (fun _ => none) <$> FindOperands.take
  | closeInterface | closeDevice => some <$> Take.cell
  | control | request => (fun operands => some operands.handle) <$> ControlOperands.take
  | pipeProperties => (fun operands => some operands.handle) <$> PipeOperands.take
  | read | write => (fun operands => some operands.handle) <$> TransferOperands.take

/-- The handle that a word looks up, once its operands are in order. -/
def lookedUp? (word : Word) (stack : List Cell) : Option Cell :=
  match word.takeHandle stack with
  | .ok handle _ => handle
  | .error _ _ => none

end Word

structure Step (σ : Type) [NativeLayer σ] where
  word : Word
  before : Session σ
  result : Except WordFault Unit
  after : Session σ

namespace Session

variable {σ : Type} [NativeLayer σ]

def start (host : σ) (machine : Machine) : Session σ where
  host := host
  machine := machine

def step (word : Word) (session : Session σ) : Step σ :=
  ⟨word, session, (session.run word).1, (session.run word).2⟩

def next : HandleKind → Session σ → Cell
  | .interface, session => session.interfaces.next
  | .device, session => session.devices.next

def object? (kind : HandleKind) (handle : Cell) (session : Session σ) :
    Option (NativeLayer.Interface σ ⊕ NativeLayer.Device σ) :=
  match kind with
  | .interface => (session.interfaces.get? handle).map .inl
  | .device => (session.devices.get? handle).map .inr

variable [ChangingHost σ]

def apply : Event σ → Session σ → Session σ
  | .word word, session => (session.run word).2
  | .machine machine, session => { session with machine }
  | .change change, session => { session with host := ChangingHost.change change session.host }

def steps : Event σ → Session σ → List (Step σ)
  | .word word, session => [session.step word]
  | .machine _, _ | .change _, _ => []

def advance : List (Event σ) → Session σ → Session σ
  | [], session => session
  | event :: rest, session => advance rest (session.apply event)

def history : List (Event σ) → Session σ → List (Step σ)
  | [], _ => []
  | event :: rest, session => session.steps event ++ history rest (session.apply event)

@[simp] theorem advance_append (first second : List (Event σ)) (session : Session σ) :
    session.advance (first ++ second) = (session.advance first).advance second := by
  induction first generalizing session with
  | nil => rfl
  | cons event rest ih => exact ih (session.apply event)

@[simp] theorem history_append (first second : List (Event σ)) (session : Session σ) :
    session.history (first ++ second) =
      session.history first ++ (session.advance first).history second := by
  induction first generalizing session with
  | nil => rfl
  | cons event rest ih =>
      simp only [List.cons_append, history, ih, List.append_assoc]
      rfl

@[simp] theorem advance_singleton (event : Event σ) (session : Session σ) :
    session.advance [event] = session.apply event := rfl

@[simp] theorem history_singleton (event : Event σ) (session : Session σ) :
    session.history [event] = session.steps event := List.append_nil _

theorem advance_keeps (invariant : Session σ → Prop)
    (kept : ∀ event session, invariant session → invariant (session.apply event))
    (events : List (Event σ)) (session : Session σ) (holds : invariant session) :
    invariant (session.advance events) := by
  induction events generalizing session with
  | nil => exact holds
  | cons event rest ih => exact ih (session.apply event) (kept event session holds)

theorem exists_of_mem_history {events : List (Event σ)} {session : Session σ} {step : Step σ}
    (member : step ∈ session.history events) :
    ∃ earlier word later, events = earlier ++ .word word :: later ∧
      step = (session.advance earlier).step word := by
  induction events generalizing session with
  | nil => cases member
  | cons event rest ih =>
      rcases List.mem_append.mp member with now | later
      · cases event with
        | word word => exact ⟨[], word, rest, rfl, List.mem_singleton.mp now⟩
        | machine machine => cases now
        | change change => cases now
      · obtain ⟨earlier, word, after, split, same⟩ := ih later
        exact ⟨event :: earlier, word, after, by rw [split]; rfl, same⟩

end Session

namespace Step

variable {σ : Type} [NativeLayer σ]

def issued? (kind : HandleKind) (step : Step σ) : Option Cell :=
  if step.word = kind.finding ∧ step.result.isOk then
    match step.after.machine.stack with
    | flag :: handle :: _ => if flag = Session.found then some handle else none
    | _ => none
  else none

def closed? (kind : HandleKind) (step : Step σ) : Option Cell :=
  if step.word = kind.closing ∧ step.result.isOk then step.before.machine.stack.head? else none

def lookedUp? (step : Step σ) : Option Cell :=
  step.word.lookedUp? step.before.machine.stack

end Step

def issued {σ : Type} [NativeLayer σ] (kind : HandleKind) (history : List (Step σ)) : List Cell :=
  history.filterMap (Step.issued? kind)

/-- Some lookup handed the identifier out and no close of it has succeeded since. -/
def IsHeld {σ : Type} [NativeLayer σ] (kind : HandleKind) (handle : Cell)
    (history : List (Step σ)) : Prop :=
  ∃ before finding after, history = before ++ finding :: after ∧
    finding.issued? kind = some handle ∧ ∀ step ∈ after, step.closed? kind ≠ some handle

end UsbHost
