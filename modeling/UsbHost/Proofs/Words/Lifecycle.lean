import UsbHost.Proofs.Words.Issue

/-!
The life of a handle over a run: it is issued once, it is accepted until its close succeeds, and all
that time it stands for the same thing below.
-/

namespace UsbHost

/-- Hosts where a kept interface has the same pipes whatever words run and whatever changes. -/
class SteadyPipes (σ : Type) [NativeLayer σ] [ChangingHost σ] where
  pipe? : σ → NativeLayer.Interface σ → UInt8 → Option Pipe
  pipe?_of_answer : ∀ {interface number host pipe after},
    Access.pipeProperties interface number host = (.ok pipe, after) →
      pipe? host interface number = some pipe
  pipe?_run : ∀ (word : Word) (session : Session σ),
    pipe? (session.run word).2.host = pipe? session.host
  pipe?_change : ∀ (change : ChangingHost.Change σ) (host : σ),
    pipe? (ChangingHost.change change host) = pipe? host

section

variable {σ : Type} [NativeLayer σ] {kind : HandleKind} {handle : Cell}

theorem TableChange.object?_of_issued {step : Step σ} {history : List (Step σ)}
    (change : TableChange kind step) (accounted : Accounted kind step.before history)
    (room : (issued kind history).length < 2 ^ 64) (early : handle ∈ issued kind history)
    (live : (step.after.object? kind handle).isSome) :
    step.after.object? kind handle = step.before.object? kind handle := by
  cases change with
  | kept unissued unclosed next entries => exact entries handle
  | added entry issues unclosed next entries =>
      have apart : handle ≠ step.before.next kind := by
        intro same
        rw [same, accounted.next] at early
        exact next_notMem_firstIdentifiers room (accounted.inOrder ▸ early)
      rw [entries, if_neg apart]
  | taken closed unissued closes wasLive next entries =>
      have apart : handle ≠ closed := by
        intro same
        rw [entries, if_pos same] at live
        cases live
      rw [entries, if_neg apart]

end

open Session in
theorem WordEnding.lookup {σ : Type} [NativeLayer σ] {session after : Session σ} {word : Word}
    {result : Except WordFault Unit} {kind : HandleKind} {handle : Cell}
    (ending : WordEnding session word result after) (uses : word.kind? = some kind)
    (looks : word.lookedUp? session.machine.stack = some handle) :
    (session.object? kind handle = none ∧ result = .error (.unknownHandle handle) ∧
        after.host = session.host) ∨
      ((session.object? kind handle).isSome ∧ result ≠ .error (.unknownHandle handle)) := by
  cases ending with
  | refused faulty => simp [Word.lookedUp?, faulty] at looks
  | unknown taken usesToo absent =>
      simp only [Word.lookedUp?, taken, Option.some.injEq] at looks
      rw [usesToo, Option.some.injEq] at uses
      subst looks uses
      exact Or.inl ⟨absent, rfl, rfl⟩
  | outside taken usesToo live asked ungranted =>
      simp only [Word.lookedUp?, taken, Option.some.injEq] at looks
      rw [usesToo, Option.some.injEq] at uses
      subst looks uses
      exact Or.inr ⟨by simp [live], by simp⟩
  | interfaceFailed | interfaceAbsent | interfaceFound | deviceFailed | deviceAbsent
  | deviceFound => cases uses
  | interfaceKept taken live called | interfaceClosed taken live called =>
      cases uses
      rw [taken] at looks
      cases looks
      exact Or.inr ⟨by simp [object?_interface live], by simp⟩
  | deviceClosed taken live =>
      cases uses
      rw [taken] at looks
      cases looks
      exact Or.inr ⟨by simp [object?_device live], by simp⟩
  | controlled taken live granted called | described taken live called
  | readFrom taken live granted called | writtenTo taken live granted called =>
      cases uses
      simp only [Word.lookedUp?, Word.takeHandle, Functor.map, EStateM.map, taken,
        Option.some.injEq] at looks
      subst looks
      exact Or.inr ⟨by simp [object?_interface live], ended_ne_unknown _ _⟩
  | requested taken live granted called =>
      cases uses
      simp only [Word.lookedUp?, Word.takeHandle, Functor.map, EStateM.map, taken,
        Option.some.injEq] at looks
      subst looks
      exact Or.inr ⟨by simp [object?_device live], ended_ne_unknown _ _⟩

open Session in
theorem WordEnding.pushes {σ : Type} [NativeLayer σ] {session after : Session σ}
    {kind : HandleKind} (ending : WordEnding session kind.finding (.ok ()) after) :
    ∃ operands rest, FindOperands.take session.machine.stack = .ok operands rest ∧
      (after.machine.stack = notFound :: rest ∧
          Step.issued? kind ⟨kind.finding, session, .ok (), after⟩ = none ∨
        ∃ handle, after.machine.stack = found :: handle :: rest ∧
          Step.issued? kind ⟨kind.finding, session, .ok (), after⟩ = some handle) := by
  cases kind with
  | interface =>
      cases ending with
      | interfaceAbsent taken called =>
          exact ⟨_, _, taken, Or.inl ⟨rfl, Step.issued?_notFound rfl⟩⟩
      | interfaceFound taken called =>
          exact ⟨_, _, taken, Or.inr ⟨_, rfl, Step.issued?_found rfl rfl rfl⟩⟩
  | device =>
      cases ending with
      | deviceAbsent taken called =>
          exact ⟨_, _, taken, Or.inl ⟨rfl, Step.issued?_notFound rfl⟩⟩
      | deviceFound taken called =>
          exact ⟨_, _, taken, Or.inr ⟨_, rfl, Step.issued?_found rfl rfl rfl⟩⟩

namespace Session

variable {σ : Type} [NativeLayer σ] [ChangingHost σ] {kind : HandleKind} {handle : Cell}
  {host : σ} {machine : Machine}

theorem mem_issued_append {earlier : List (Event σ)} {session : Session σ}
    (early : handle ∈ issued kind (session.history earlier)) (later : List (Event σ)) :
    handle ∈ issued kind (session.history (earlier ++ later)) := by
  rw [history_append, issued_append]
  exact List.mem_append_left _ early

theorem object?_stays {earlier : List (Event σ)}
    (early : handle ∈ issued kind ((start host machine).history earlier)) (later : List (Event σ))
    (room : (issued kind ((start host machine).history (earlier ++ later))).length < 2 ^ 64)
    (live : (((start host machine).advance (earlier ++ later)).object? kind handle).isSome) :
    ((start host machine).advance (earlier ++ later)).object? kind handle =
      ((start host machine).advance earlier).object? kind handle := by
  -- Backwards from the end: what is live after an event and was issued long before is not new.
  induction later using List.reverseRecOn with
  | nil => rw [List.append_nil]
  | append_singleton later event ih =>
      rw [← List.append_assoc] at room live ⊢
      have shorter : (issued kind ((start host machine).history (earlier ++ later))).length ≤ _ :=
        issued_length_le (List.prefix_append _ [event]) (start host machine)
      have roomBefore : (issued kind ((start host machine).history (earlier ++ later))).length <
          2 ^ 64 := by omega
      have same : ((start host machine).advance (earlier ++ later ++ [event])).object? kind handle =
          ((start host machine).advance (earlier ++ later)).object? kind handle := by
        rw [advance_append, advance_singleton] at live ⊢
        cases event with
        | word word =>
            exact (step_tableChange kind word _).object?_of_issued (accounted kind host machine _)
              roomBefore (mem_issued_append early later) live
        | machine machine => cases kind <;> rfl
        | change change => cases kind <;> rfl
      rw [same] at live ⊢
      exact ih roomBefore live

variable [SteadyPipes σ]

theorem pipe?_advance (events : List (Event σ)) (session : Session σ) :
    SteadyPipes.pipe? (session.advance events).host = SteadyPipes.pipe? session.host := by
  refine advance_keeps (fun reached =>
    SteadyPipes.pipe? reached.host = SteadyPipes.pipe? session.host) ?_ events session rfl
  intro event reached same
  cases event with
  | word word => exact (SteadyPipes.pipe?_run word reached).trans same
  | machine machine => exact same
  | change change => exact (SteadyPipes.pipe?_change change reached.host).trans same

theorem pipeProperties_pushes {session after : Session σ}
    (ran : session.run .pipeProperties = (.ok (), after)) :
    ∃ operands rest interface pipe,
      PipeOperands.take session.machine.stack = .ok operands rest ∧
      session.interfaces.get? operands.handle = some interface ∧
      SteadyPipes.pipe? session.host interface operands.pipe = some pipe ∧
      after.machine.stack = pipe.cells.reverse ++ rest := by
  have ending := run_ending ran
  generalize succeeded : (.ok () : Except WordFault Unit) = result at ending
  cases ending with
  | described taken live called =>
      rename_i operands rest interface answer host
      cases answer with
      | error failure => cases succeeded
      | ok pipe =>
          exact ⟨operands, rest, interface, pipe, taken, live,
            SteadyPipes.pipe?_of_answer called, rfl⟩
  | refused faulty => cases succeeded
  | unknown taken uses absent => cases succeeded
  | outside taken uses live asked ungranted => cases succeeded

theorem pipeProperties_agree {first second : List (Event σ)} (order : first <+: second)
    (room : (issued .interface ((start host machine).history second)).length < 2 ^ 64)
    {after after' : Session σ} {operands : PipeOperands} {rest rest' : List Cell}
    (ran : ((start host machine).advance first).run .pipeProperties = (.ok (), after))
    (ran' : ((start host machine).advance second).run .pipeProperties = (.ok (), after'))
    (taken : PipeOperands.take ((start host machine).advance first).machine.stack =
      .ok operands rest)
    (taken' : PipeOperands.take ((start host machine).advance second).machine.stack =
      .ok operands rest') :
    ∃ pipe : Pipe, after.machine.stack = pipe.cells.reverse ++ rest ∧
      after'.machine.stack = pipe.cells.reverse ++ rest' := by
  obtain ⟨middle, rfl⟩ := order
  obtain ⟨_, _, interface, pipe, takenFirst, live, told, pushes⟩ := pipeProperties_pushes ran
  obtain ⟨_, _, interface', pipe', takenSecond, live', told', pushes'⟩ := pipeProperties_pushes ran'
  cases taken.symm.trans takenFirst
  cases taken'.symm.trans takenSecond
  have early : operands.handle ∈ issued .interface ((start host machine).history first) :=
    ((accounted .interface host machine first).live operands.handle).mp
      (by simp [object?_interface live]) |>.mem_issued
  have stands := object?_interface live'
  have same := object?_stays early middle room (by rw [stands]; rfl)
  rw [stands, object?_interface live, Option.some.injEq, Sum.inl.injEq] at same
  have samePipe : some pipe' = some pipe := by
    rw [← told, ← told', same, pipe?_advance, pipe?_advance]
  cases samePipe
  exact ⟨pipe, pushes, pushes'⟩

end Session

structure Lifecycle {σ : Type} [NativeLayer σ] [ChangingHost σ] (opening : Session σ)
    (events : List (Event σ)) : Prop where
  lookup : ∀ kind, ∀ step ∈ opening.history events,
    step.word = HandleKind.finding kind → step.result = .ok () →
    ∃ operands rest, FindOperands.take step.before.machine.stack = .ok operands rest ∧
      (step.after.machine.stack = Session.notFound :: rest ∧ step.issued? kind = none ∨
        ∃ handle, step.after.machine.stack = Session.found :: handle :: rest ∧
          step.issued? kind = some handle)
  numbered : ∀ kind index, (inside : index < (issued kind (opening.history events)).length) →
    (issued kind (opening.history events))[index].toInt = index + 1
  nonzero : ∀ kind, 0 ∉ issued kind (opening.history events)
  unique : ∀ kind, (issued kind (opening.history events)).Nodup
  /-- The next word that looks a handle up accepts it exactly while the history holds it. -/
  accepts : ∀ word kind handle, Word.kind? word = some kind →
    word.lookedUp? (opening.advance events).machine.stack = some handle →
    (((opening.advance events).run word).1 ≠ .error (.unknownHandle handle) ↔
      IsHeld kind handle (opening.history events))
  refuses : ∀ word kind handle, Word.kind? word = some kind →
    word.lookedUp? (opening.advance events).machine.stack = some handle →
    ¬IsHeld kind handle (opening.history events) →
    ((opening.advance events).run word).1 = .error (.unknownHandle handle) ∧
      ((opening.advance events).run word).2.host = (opening.advance events).host
  /-- A handle that is held stands for one entry, the same as at any time since its issue. -/
  bound : ∀ kind handle earlier later, events = earlier ++ later →
    IsHeld kind handle (opening.history earlier) → IsHeld kind handle (opening.history events) →
    ∃ entry, (opening.advance earlier).object? kind handle = some entry ∧
      (opening.advance events).object? kind handle = some entry
  pipes : ∀ first ∈ opening.history events, ∀ second ∈ opening.history events,
    first.word = .pipeProperties → second.word = .pipeProperties →
    first.result = .ok () → second.result = .ok () →
    ∀ operands rest rest', PipeOperands.take first.before.machine.stack = .ok operands rest →
      PipeOperands.take second.before.machine.stack = .ok operands rest' →
      ∃ pipe : Pipe, first.after.machine.stack = pipe.cells.reverse ++ rest ∧
        second.after.machine.stack = pipe.cells.reverse ++ rest'

section

variable {σ : Type} [NativeLayer σ] [ChangingHost σ] {kind : HandleKind} {host : σ}
  {machine : Machine} {events : List (Event σ)}

theorem toInt_ofNat_succ {count index : Nat} (inside : index < count)
    (bounded : count < 2 ^ 63 - 1) : (Int64.ofNat (index + 1)).toInt = index + 1 := by
  rw [Int64.toInt_ofNat_of_lt (by omega)]
  rfl

theorem issued_numbered
    (bounded : (issued kind ((Session.start host machine).history events)).length < 2 ^ 63 - 1)
    {index : Nat}
    (inside : index < (issued kind ((Session.start host machine).history events)).length) :
    (issued kind ((Session.start host machine).history events))[index].toInt = index + 1 := by
  have listed := (Session.accounted kind host machine events).inOrder
  have same : (issued kind ((Session.start host machine).history events))[index]? =
      some (Int64.ofNat (index + 1)) := by
    rw [listed]
    simp [firstIdentifiers, inside]
  rw [List.getElem?_eq_getElem inside, Option.some.injEq] at same
  rw [same]
  exact toInt_ofNat_succ inside bounded

variable [SteadyPipes σ]

theorem Session.pipes_agree
    (bounded : (issued .interface ((start host machine).history events)).length < 2 ^ 63 - 1) :
    ∀ first ∈ (start host machine).history events, ∀ second ∈ (start host machine).history events,
      first.word = .pipeProperties → second.word = .pipeProperties →
      first.result = .ok () → second.result = .ok () →
      ∀ operands rest rest', PipeOperands.take first.before.machine.stack = .ok operands rest →
        PipeOperands.take second.before.machine.stack = .ok operands rest' →
        ∃ pipe : Pipe, first.after.machine.stack = pipe.cells.reverse ++ rest ∧
          second.after.machine.stack = pipe.cells.reverse ++ rest' := by
  intro first firstMember second secondMember
  obtain ⟨earlier, word, later, split, rfl⟩ := exists_of_mem_history firstMember
  obtain ⟨earlier', word', later', split', rfl⟩ := exists_of_mem_history secondMember
  rcases ran : ((start host machine).advance earlier).run word with ⟨result, after⟩
  rcases ran' : ((start host machine).advance earlier').run word' with ⟨result', after'⟩
  simp only [Session.step, ran, ran']
  rintro rfl rfl rfl rfl operands rest rest' taken taken'
  have inside : earlier <+: events := ⟨_, split.symm⟩
  have inside' : earlier' <+: events := ⟨_, split'.symm⟩
  have room : (issued .interface ((start host machine).history earlier)).length ≤ _ :=
    issued_length_le inside (start host machine)
  have room' : (issued .interface ((start host machine).history earlier')).length ≤ _ :=
    issued_length_le inside' (start host machine)
  rcases List.prefix_or_prefix_of_prefix inside inside' with order | order
  · exact pipeProperties_agree order (by omega) ran ran' taken taken'
  · obtain ⟨pipe, pushes', pushes⟩ :=
      pipeProperties_agree order (by omega) ran' ran taken' taken
    exact ⟨pipe, pushes, pushes'⟩

theorem Session.lifecycle (host : σ) (machine : Machine) (events : List (Event σ))
    (bounded : ∀ kind, (issued kind ((start host machine).history events)).length < 2 ^ 63 - 1) :
    Lifecycle (start host machine) events where
  lookup kind step member finds succeeds := by
    obtain ⟨earlier, word, later, split, rfl⟩ := exists_of_mem_history member
    rcases ran : ((start host machine).advance earlier).run word with ⟨result, after⟩
    simp only [Session.step, ran] at finds succeeds ⊢
    subst finds succeeds
    exact (run_ending ran).pushes
  numbered kind index inside := issued_numbered (bounded kind) inside
  nonzero kind member := by
    obtain ⟨index, inside, same⟩ := List.getElem_of_mem member
    have positive := issued_numbered (bounded kind) inside
    rw [same] at positive
    have zero : (0 : Cell).toInt = 0 := rfl
    omega
  unique kind := by
    rw [(accounted kind host machine events).inOrder]
    have few := bounded kind
    exact firstIdentifiers_nodup (by omega)
  accepts word kind handle uses looks := by
    rw [← (accounted kind host machine events).live handle]
    rcases (run_ended word _).lookup uses looks with ⟨absent, failed, -⟩ | ⟨live, passed⟩
    · simp [absent, failed]
    · simp [live, passed]
  refuses word kind handle uses looks unheld := by
    rw [← (accounted kind host machine events).live handle] at unheld
    rcases (run_ended word _).lookup uses looks with ⟨-, failed, untouched⟩ | ⟨live, -⟩
    · exact ⟨failed, untouched⟩
    · exact absurd live unheld
  bound kind handle earlier later split early late := by
    subst split
    rw [← (accounted kind host machine _).live handle] at late
    obtain ⟨entry, stands⟩ := Option.isSome_iff_exists.mp late
    have few := bounded kind
    have same := object?_stays early.mem_issued later (by omega) late
    exact ⟨entry, same ▸ stands, stands⟩
  pipes := pipes_agree (bounded .interface)

end

end UsbHost
