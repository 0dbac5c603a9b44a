import UsbHost.Proofs.Words.Ending
import Mathlib.Algebra.Ring.Nat
import Mathlib.Data.List.Induction

/-!
What words do to the handle tables, and what a history tells of them. A table hands its identifiers
out in order, and an identifier is live exactly while the history holds it.
-/

namespace UsbHost

variable {σ : Type} [NativeLayer σ]

inductive TableChange (kind : HandleKind) (step : Step σ) : Prop
  | kept (unissued : step.issued? kind = none) (unclosed : step.closed? kind = none)
      (next : step.after.next kind = step.before.next kind)
      (entries : ∀ handle, step.after.object? kind handle = step.before.object? kind handle)
  | added (entry : NativeLayer.Interface σ ⊕ NativeLayer.Device σ)
      (issues : step.issued? kind = some (step.before.next kind))
      (unclosed : step.closed? kind = none)
      (next : step.after.next kind = step.before.next kind + 1)
      (entries : ∀ handle, step.after.object? kind handle =
        if handle = step.before.next kind then some entry else step.before.object? kind handle)
  | taken (closed : Cell) (unissued : step.issued? kind = none)
      (closes : step.closed? kind = some closed)
      (live : (step.before.object? kind closed).isSome)
      (next : step.after.next kind = step.before.next kind)
      (entries : ∀ handle, step.after.object? kind handle =
        if handle = closed then none else step.before.object? kind handle)

namespace Step

theorem issued?_error {kind : HandleKind} {step : Step σ} {fault : WordFault}
    (failed : step.result = .error fault) : step.issued? kind = none := by
  simp [issued?, failed, Except.isOk, Except.toBool]

theorem closed?_error {kind : HandleKind} {step : Step σ} {fault : WordFault}
    (failed : step.result = .error fault) : step.closed? kind = none := by
  simp [closed?, failed, Except.isOk, Except.toBool]

theorem issued?_notFound {kind : HandleKind} {step : Step σ} {stack : List Cell}
    (absent : step.after.machine.stack = Session.notFound :: stack) :
    step.issued? kind = none := by
  cases stack with
  | nil => simp [issued?, absent]
  | cons below rest => simp [issued?, absent, Session.notFound, Session.found]

theorem issued?_of_ne {kind : HandleKind} {step : Step σ} (other : step.word ≠ kind.finding) :
    step.issued? kind = none := by
  simp [issued?, other]

theorem closed?_of_ne {kind : HandleKind} {step : Step σ} (other : step.word ≠ kind.closing) :
    step.closed? kind = none := by
  simp [closed?, other]

theorem issued?_found {kind : HandleKind} {step : Step σ} {handle : Cell} {rest : List Cell}
    (finds : step.word = kind.finding) (succeeds : step.result = .ok ())
    (pushed : step.after.machine.stack = Session.found :: handle :: rest) :
    step.issued? kind = some handle := by
  simp [issued?, finds, succeeds, pushed, Except.isOk, Except.toBool]

theorem closed?_closing {kind : HandleKind} {step : Step σ} {handle : Cell} {rest : List Cell}
    (closes : step.word = kind.closing) (succeeds : step.result = .ok ())
    (taken : step.before.machine.stack = handle :: rest) : step.closed? kind = some handle := by
  simp [closed?, closes, succeeds, taken, Except.isOk, Except.toBool]

end Step

namespace TableChange

variable {kind : HandleKind} {step : Step σ}

theorem of_tables (unissued : step.issued? kind = none) (unclosed : step.closed? kind = none)
    (interfaces : step.after.interfaces = step.before.interfaces)
    (devices : step.after.devices = step.before.devices) : TableChange kind step := by
  refine .kept unissued unclosed ?_ ?_
  · cases kind with
    | interface => exact congrArg HandleTable.next interfaces
    | device => exact congrArg HandleTable.next devices
  · intro handle
    cases kind with
    | interface => simp only [Session.object?, interfaces]
    | device => simp only [Session.object?, devices]

theorem of_error {fault : WordFault} (failed : step.result = .error fault)
    (interfaces : step.after.interfaces = step.before.interfaces)
    (devices : step.after.devices = step.before.devices) : TableChange kind step :=
  of_tables (Step.issued?_error failed) (Step.closed?_error failed) interfaces devices

end TableChange

theorem WordEnding.tableChange {session after : Session σ} {word : Word}
    {result : Except WordFault Unit} (ending : WordEnding session word result after)
    (kind : HandleKind) : TableChange kind ⟨word, session, result, after⟩ := by
  cases ending with
  | refused faulty => exact .of_error rfl rfl rfl
  | unknown taken uses absent => exact .of_error rfl rfl rfl
  | outside taken uses live asked ungranted => exact .of_error rfl rfl rfl
  | interfaceFailed taken called => exact .of_error rfl rfl rfl
  | interfaceKept taken live called => exact .of_error rfl rfl rfl
  | deviceFailed taken called => exact .of_error rfl rfl rfl
  | interfaceAbsent taken called =>
      refine .of_tables (Step.issued?_notFound rfl) (Step.closed?_of_ne ?_) rfl rfl
      cases kind <;> simp [HandleKind.closing]
  | deviceAbsent taken called =>
      refine .of_tables (Step.issued?_notFound rfl) (Step.closed?_of_ne ?_) rfl rfl
      cases kind <;> simp [HandleKind.closing]
  | controlled taken live granted called | described taken live called
  | readFrom taken live granted called | writtenTo taken live granted called
  | requested taken live granted called =>
      refine .of_tables (Step.issued?_of_ne ?_) (Step.closed?_of_ne ?_) rfl rfl
      · cases kind <;> simp [HandleKind.finding]
      · cases kind <;> simp [HandleKind.closing]
  | interfaceFound taken called =>
      rename_i operands stack interface host
      cases kind with
      | interface =>
          refine .added (.inl interface) (Step.issued?_found rfl rfl rfl)
            (Step.closed?_of_ne (by simp [HandleKind.closing])) rfl ?_
          intro handle
          by_cases same : handle = session.interfaces.next
          · simp [Session.object?, Session.next, same]
          · simp [Session.object?, Session.next, same]
      | device =>
          exact .kept (Step.issued?_of_ne (by simp [HandleKind.finding]))
            (Step.closed?_of_ne (by simp [HandleKind.closing])) rfl fun _ => rfl
  | deviceFound taken called =>
      rename_i operands stack device host
      cases kind with
      | device =>
          refine .added (.inr device) (Step.issued?_found rfl rfl rfl)
            (Step.closed?_of_ne (by simp [HandleKind.closing])) rfl ?_
          intro handle
          by_cases same : handle = session.devices.next
          · simp [Session.object?, Session.next, same]
          · simp [Session.object?, Session.next, same]
      | interface =>
          exact .kept (Step.issued?_of_ne (by simp [HandleKind.finding]))
            (Step.closed?_of_ne (by simp [HandleKind.closing])) rfl fun _ => rfl
  | interfaceClosed taken live called =>
      rename_i handle stack interface host
      cases kind with
      | interface =>
          refine .taken handle (Step.issued?_of_ne (by simp [HandleKind.finding]))
            (Step.closed?_closing rfl rfl taken) ?_ rfl ?_
          · simp [Session.object?_interface live]
          · intro other
            by_cases same : other = handle
            · simp [Session.object?, same]
            · simp [Session.object?, same]
      | device =>
          exact .kept (Step.issued?_of_ne (by simp [HandleKind.finding]))
            (Step.closed?_of_ne (by simp [HandleKind.closing])) rfl fun _ => rfl
  | deviceClosed taken live =>
      rename_i handle stack device
      cases kind with
      | device =>
          refine .taken handle (Step.issued?_of_ne (by simp [HandleKind.finding]))
            (Step.closed?_closing rfl rfl taken) ?_ rfl ?_
          · simp [Session.object?_device live]
          · intro other
            by_cases same : other = handle
            · simp [Session.object?, same]
            · simp [Session.object?, same]
      | interface =>
          exact .kept (Step.issued?_of_ne (by simp [HandleKind.finding]))
            (Step.closed?_of_ne (by simp [HandleKind.closing])) rfl fun _ => rfl

theorem Session.step_tableChange (kind : HandleKind) (word : Word) (session : Session σ) :
    TableChange kind (session.step word) :=
  (run_ended word session).tableChange kind

theorem issued_append (kind : HandleKind) (first second : List (Step σ)) :
    issued kind (first ++ second) = issued kind first ++ issued kind second :=
  List.filterMap_append

theorem isHeld_append_singleton {kind : HandleKind} {handle : Cell} {history : List (Step σ)}
    {step : Step σ} :
    IsHeld kind handle (history ++ [step]) ↔
      step.issued? kind = some handle ∨
        (IsHeld kind handle history ∧ step.closed? kind ≠ some handle) := by
  constructor
  · rintro ⟨before, finding, after, split, issues, unclosed⟩
    rcases List.eq_nil_or_concat after with empty | ⟨middle, last, more⟩
    · subst empty
      obtain ⟨-, same⟩ := List.append_inj' split rfl
      cases same
      exact Or.inl issues
    · subst more
      have regrouped : history ++ [step] = (before ++ finding :: middle) ++ [last] := by
        simpa using split
      obtain ⟨same, lastSame⟩ := List.append_inj' regrouped rfl
      cases lastSame
      refine Or.inr ⟨⟨before, finding, middle, same, issues, ?_⟩, unclosed _ (by simp)⟩
      exact fun step member => unclosed step (by simp [member])
  · rintro (issues | ⟨⟨before, finding, after, split, issues, unclosed⟩, kept⟩)
    · exact ⟨history, step, [], rfl, issues, by simp⟩
    · refine ⟨before, finding, after ++ [step], by simp [split], issues, ?_⟩
      intro other member
      rcases List.mem_append.mp member with earlier | last
      · exact unclosed other earlier
      · rw [List.mem_singleton.mp last]
        exact kept

theorem IsHeld.mem_issued {kind : HandleKind} {handle : Cell} {history : List (Step σ)}
    (held : IsHeld kind handle history) : handle ∈ issued kind history := by
  obtain ⟨before, finding, after, split, issues, -⟩ := held
  rw [split]
  exact List.mem_filterMap.mpr ⟨finding, by simp, issues⟩

def firstIdentifiers (count : Nat) : List Cell :=
  (List.range count).map fun index => Int64.ofNat (index + 1)

theorem ofNat_ne {low high : Nat} (apart : low < high) (close : high < low + 2 ^ 64) :
    Int64.ofNat low ≠ Int64.ofNat high := by
  intro same
  have bits := congrArg (fun cell => cell.toBitVec.toNat) same
  simp only [Int64.toBitVec_ofNat', BitVec.toNat_ofNat] at bits
  omega

theorem firstIdentifiers_nodup {count : Nat} (bounded : count ≤ 2 ^ 64) :
    (firstIdentifiers count).Nodup := by
  rw [firstIdentifiers, List.nodup_iff_pairwise_ne, List.pairwise_map]
  refine List.Pairwise.imp_of_mem ?_ List.pairwise_lt_range
  intro low high lowMember highMember apart
  have highBound := List.mem_range.mp highMember
  exact ofNat_ne (by omega) (by omega)

theorem next_notMem_firstIdentifiers {count : Nat} (bounded : count < 2 ^ 64) :
    Int64.ofNat (count + 1) ∉ firstIdentifiers count := by
  intro member
  obtain ⟨index, indexMember, same⟩ := List.mem_map.mp member
  have indexBound := List.mem_range.mp indexMember
  exact ofNat_ne (by omega) (by omega) same

structure Accounted (kind : HandleKind) (session : Session σ) (history : List (Step σ)) : Prop where
  inOrder : issued kind history = firstIdentifiers (issued kind history).length
  next : session.next kind = Int64.ofNat ((issued kind history).length + 1)
  live : ∀ handle, (session.object? kind handle).isSome ↔ IsHeld kind handle history

namespace Accounted

variable {kind : HandleKind} {session : Session σ} {history : List (Step σ)}

theorem start (kind : HandleKind) (host : σ) (machine : Machine) :
    Accounted kind (Session.start host machine) [] where
  inOrder := rfl
  next := by cases kind <;> rfl
  live := by
    intro handle
    have absent : ¬IsHeld (σ := σ) kind handle [] := by
      rintro ⟨before, finding, after, split, -⟩
      simp at split
    cases kind with
    | interface => simpa [Session.object?, Session.start, HandleTable.get?] using absent
    | device => simpa [Session.object?, Session.start, HandleTable.get?] using absent

theorem extend {step : Step σ} (accounted : Accounted kind step.before history)
    (change : TableChange kind step) : Accounted kind step.after (history ++ [step]) := by
  have issuedNow : issued kind (history ++ [step]) =
      issued kind history ++ (step.issued? kind).toList := by
    rw [issued_append]
    cases found : step.issued? kind with
    | none => simp [issued, found]
    | some handle => simp [issued, found]
  rcases change with
    ⟨unissued, unclosed, next, entries⟩ | ⟨entry, issues, unclosed, next, entries⟩ |
    ⟨closed, unissued, closes, live, next, entries⟩
  · rw [unissued, Option.toList_none, List.append_nil] at issuedNow
    refine ⟨by rw [issuedNow]; exact accounted.inOrder, ?_, ?_⟩
    · rw [issuedNow, next]
      exact accounted.next
    · intro handle
      rw [isHeld_append_singleton, unissued, unclosed, entries, accounted.live]
      simp
  · rw [issues, Option.toList_some] at issuedNow
    have longer : (issued kind (history ++ [step])).length = (issued kind history).length + 1 := by
      rw [issuedNow, List.length_append, List.length_singleton]
    refine ⟨?_, ?_, ?_⟩
    · rw [longer, issuedNow, firstIdentifiers, List.range_succ, List.map_append, List.map_singleton,
        ← accounted.next]
      exact congrArg (· ++ [step.before.next kind]) accounted.inOrder
    · rw [longer, next, accounted.next]
      exact (Int64.ofNat_add _ 1).symm
    · intro handle
      rw [isHeld_append_singleton, issues, unclosed, entries, ← accounted.live]
      by_cases same : handle = step.before.next kind
      · simp [same]
      · simp [same, Ne.symm same]
  · rw [unissued, Option.toList_none, List.append_nil] at issuedNow
    refine ⟨by rw [issuedNow]; exact accounted.inOrder, ?_, ?_⟩
    · rw [issuedNow, next]
      exact accounted.next
    · intro handle
      rw [isHeld_append_singleton, unissued, closes, entries, ← accounted.live]
      by_cases shut : handle = closed
      · simp [shut]
      · simp [shut, Ne.symm shut]

theorem notHeld_next (accounted : Accounted kind session history)
    (room : (issued kind history).length < 2 ^ 64) :
    session.object? kind (session.next kind) = none := by
  rw [← Option.not_isSome_iff_eq_none, accounted.live, accounted.next]
  intro held
  exact next_notMem_firstIdentifiers room (accounted.inOrder ▸ held.mem_issued)

end Accounted

namespace Session

variable [ChangingHost σ]

theorem accounted (kind : HandleKind) (host : σ) (machine : Machine) (events : List (Event σ)) :
    Accounted kind ((start host machine).advance events)
      ((start host machine).history events) := by
  induction events using List.reverseRecOn with
  | nil => exact .start kind host machine
  | append_singleton events event ih =>
      simp only [advance_append, history_append, advance_singleton, history_singleton]
      cases event with
      | word word => exact ih.extend (step_tableChange kind word _)
      | machine machine =>
          simp only [steps, List.append_nil]
          exact ⟨ih.inOrder, by cases kind <;> exact ih.next, by cases kind <;> exact ih.live⟩
      | change change =>
          simp only [steps, List.append_nil]
          exact ⟨ih.inOrder, by cases kind <;> exact ih.next, by cases kind <;> exact ih.live⟩

theorem issued_length_le {kind : HandleKind}
    {earlier events : List (Event σ)} (order : earlier <+: events)
    (session : Session σ) :
    (issued kind (session.history earlier)).length ≤
      (issued kind (session.history events)).length := by
  obtain ⟨later, rfl⟩ := order
  rw [history_append, issued_append, List.length_append]
  exact Nat.le_add_right _ _

theorem isSome_object?_advance {kind : HandleKind} {handle : Cell} (events : List (Event σ))
    (session : Session σ)
    (unclosed : ∀ step ∈ session.history events, step.closed? kind ≠ some handle)
    (live : (session.object? kind handle).isSome) :
    ((session.advance events).object? kind handle).isSome := by
  induction events generalizing session with
  | nil => exact live
  | cons event rest ih =>
      refine ih (session.apply event) ?_ ?_
      · intro step member
        exact unclosed step (List.mem_append_right _ member)
      · cases event with
        | machine machine => cases kind <;> exact live
        | change change => cases kind <;> exact live
        | word word =>
            have now := unclosed (session.step word)
              (List.mem_append_left _ (List.mem_singleton.mpr rfl))
            have before : ((session.step word).before.object? kind handle).isSome := live
            change ((session.step word).after.object? kind handle).isSome
            cases step_tableChange kind word session with
            | kept unissued unclosed next entries => rwa [entries]
            | added entry issues unclosed next entries =>
                rw [entries]
                split
                · rfl
                · exact before
            | taken closed unissued closes wasLive next entries =>
                rw [closes] at now
                rw [entries, if_neg fun same => now (congrArg some same.symm)]
                exact before

/-- A run that hands out no more identifiers of one kind than there are cells. -/
def HasRoom (events : List (Event σ)) (session : Session σ) : Prop :=
  ∀ kind, (issued kind (session.history events)).length ≤ 2 ^ 64

theorem HasRoom.earlier {session : Session σ} {earlier events : List (Event σ)}
    (room : session.HasRoom events) (order : earlier <+: events) : session.HasRoom earlier :=
  fun kind => Nat.le_trans (issued_length_le order session) (room kind)

theorem free_next (kind : HandleKind) {host : σ} {machine : Machine} {earlier : List (Event σ)}
    {event : Event σ} (room : (start host machine).HasRoom (earlier ++ [event]))
    (moved : ((start host machine).advance (earlier ++ [event])).next kind ≠
      ((start host machine).advance earlier).next kind) :
    ((start host machine).advance earlier).object? kind
      (((start host machine).advance earlier).next kind) = none := by
  have before := accounted kind host machine earlier
  have after := accounted kind host machine (earlier ++ [event])
  have grows : (issued kind ((start host machine).history earlier)).length ≤ _ :=
    issued_length_le (List.prefix_append earlier [event]) (start host machine)
  have bounded := room kind
  refine before.notHeld_next ?_
  have apart : (issued kind ((start host machine).history (earlier ++ [event]))).length ≠
      (issued kind ((start host machine).history earlier)).length := by
    intro same
    rw [before.next, after.next, same] at moved
    exact moved rfl
  omega

end Session

end UsbHost
