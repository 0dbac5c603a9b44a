import UsbHost.Proofs.Words.Lifecycle
import UsbHost.Proofs.Bench.Effect
import UsbHost.Proofs.Bus.Effect

/-!
The two kinds of handle. Each kind has a table of its own and every word looks into one of them, but
both tables count from one: the first interface and the first device have the same identifier. What
a word is given does not say which kind was meant.
-/

namespace UsbHost

def HandleKind.other : HandleKind → HandleKind
  | interface => device
  | device => interface

namespace Session

variable {σ : Type} [NativeLayer σ]

structure TurnsDown (word : Word) (handle : Cell) (session : Session σ) : Prop where
  result : (session.run word).1 = .error (.unknownHandle handle)
  interfaces : (session.run word).2.interfaces = session.interfaces
  devices : (session.run word).2.devices = session.devices
  host : (session.run word).2.host = session.host

def KindsApart (session : Session σ) : Prop :=
  ∀ machine word kind handle, Word.kind? word = some kind →
    word.lookedUp? machine.stack = some handle → (session.object? kind.other handle).isSome →
    TurnsDown word handle { session with machine }

variable {session : Session σ} {word : Word} {kind : HandleKind} {handle : Cell}

@[simp] theorem object?_withMachine (machine : Machine) :
    { session with machine }.object? kind handle = session.object? kind handle := by
  cases kind <;> rfl

theorem turnsDown_of_absent (uses : word.kind? = some kind)
    (looks : word.lookedUp? session.machine.stack = some handle)
    (absent : session.object? kind handle = none) : TurnsDown word handle session := by
  have ending := run_ended word session
  rcases ending.lookup uses looks with ⟨-, failed, untouched⟩ | ⟨live, -⟩
  · rw [failed] at ending
    obtain ⟨stack, same⟩ := of_refusal ending rfl
    exact ⟨failed, congrArg (·.interfaces) same, congrArg (·.devices) same, untouched⟩
  · rw [absent] at live
    cases live

theorem not_turnsDown_of_live (uses : word.kind? = some kind)
    (looks : word.lookedUp? session.machine.stack = some handle)
    (live : (session.object? kind handle).isSome) : ¬TurnsDown word handle session := by
  intro refused
  rcases (run_ended word session).lookup uses looks with ⟨absent, -, -⟩ | ⟨-, passed⟩
  · rw [absent] at live
    cases live
  · exact passed refused.result

theorem kindsApart_iff_live :
    session.KindsApart ↔ ∀ handle, (session.object? .interface handle).isSome →
      session.object? .device handle = none := by
  constructor
  · intro apart handle interface
    by_contra device
    -- Closing the device is the shortest word that must refuse the handle and does not.
    let machine : Machine := { stack := [handle] }
    have refused := apart machine .closeDevice .device handle rfl rfl interface
    have live : ({ session with machine }.object? .device handle).isSome := by
      rw [object?_withMachine]
      exact Option.isSome_iff_ne_none.mpr device
    exact not_turnsDown_of_live rfl rfl live refused
  · intro disjoint machine word kind handle uses looks otherLive
    refine turnsDown_of_absent uses looks ?_
    rw [object?_withMachine]
    cases kind with
    | device => exact disjoint handle otherLive
    | interface =>
        rw [← Option.not_isSome_iff_eq_none]
        intro interface
        rw [HandleKind.other, disjoint handle interface] at otherLive
        cases otherLive

end Session

theorem firstIdentifiers_mono {fewer count : Nat} (order : fewer ≤ count) :
    firstIdentifiers fewer <+: firstIdentifiers count := by
  refine List.IsPrefix.map _ ?_
  rw [List.prefix_iff_eq_take, List.length_range, List.take_range, Nat.min_eq_left order]

variable {σ : Type} [NativeLayer σ] [ChangingHost σ]

/-- What the two tables owe each other over one run: a word that is given an identifier which its
own kind does not hold turns it down, whatever the other kind holds, and that is all. The kinds hand
out the same identifiers in the same order. -/
structure SharedNumbers (opening : Session σ) (events : List (Event σ)) : Prop where
  turnedDown : ∀ machine word kind handle, Word.kind? word = some kind →
    word.lookedUp? machine.stack = some handle → ¬IsHeld kind handle (opening.history events) →
    Session.TurnsDown word handle { opening.advance events with machine }
  apart : (opening.advance events).KindsApart ↔
    ∀ handle, ¬(IsHeld .interface handle (opening.history events) ∧
      IsHeld .device handle (opening.history events))
  inStep : issued .interface (opening.history events) <+: issued .device (opening.history events) ∨
    issued .device (opening.history events) <+: issued .interface (opening.history events)

theorem issued_inStep (host : σ) (machine : Machine) (events : List (Event σ)) :
    let history := (Session.start host machine).history events
    issued .interface history <+: issued .device history ∨
      issued .device history <+: issued .interface history := by
  intro history
  have interfaces := (Session.accounted .interface host machine events).inOrder
  have devices := (Session.accounted .device host machine events).inOrder
  rw [interfaces, devices]
  rcases Nat.le_total (issued .interface history).length (issued .device history).length with
    fewer | more
  · exact Or.inl (firstIdentifiers_mono fewer)
  · exact Or.inr (firstIdentifiers_mono more)

theorem kinds_share_numbers (host : σ) (machine : Machine) (events : List (Event σ)) :
    SharedNumbers (Session.start host machine) events where
  turnedDown machine' word kind handle uses looks unheld := by
    refine Session.turnsDown_of_absent uses looks ?_
    rw [Session.object?_withMachine, ← Option.not_isSome_iff_eq_none,
      (Session.accounted kind host machine events).live]
    exact unheld
  apart := by
    rw [Session.kindsApart_iff_live]
    refine forall_congr' fun handle => ?_
    rw [← Option.not_isSome_iff_eq_none, (Session.accounted .interface host machine events).live,
      (Session.accounted .device host machine events).live, not_and]
  inStep := issued_inStep host machine events

def findBothKinds {σ : Type} [ChangingHost σ] : List (Event σ) :=
  [.machine { stack := [0x5740, 0x0483] }, .word .findInterface,
    .machine { stack := [0x5740, 0x0483] }, .word .findDevice]

/-- The first interface and the first device are both called one, on a bench as on a bus. -/
theorem first_handles_collide :
    ¬((Session.start ({ devices := [.probe] } : Bench) {}).advance findBothKinds).KindsApart ∧
      ¬((Session.start ({ devices := [{}] } : Bus) {}).advance findBothKinds).KindsApart := by
  constructor
  · intro apart
    exact absurd (Session.kindsApart_iff_live.mp apart 1 (by decide)) (by decide)
  · intro apart
    exact absurd (Session.kindsApart_iff_live.mp apart 1 (by decide)) (by decide)

end UsbHost
