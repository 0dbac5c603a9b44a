import UsbHost.Access.Lookup
import UsbHost.Proofs.Words.History

/-!
Lookups and the list of devices. A host has its devices in a row, and of each it shows whether its
descriptor can be read and whether it offers the interface that lookups want. The list tells the
readable ones, and both lookups go on with the first device in the row that answers them, so they
agree with the list and with each other.
-/

namespace UsbHost

def DeviceSummary.hasIds (vendorId productId : UInt16) (summary : DeviceSummary) : Bool :=
  vendorId == summary.vendorId && productId == summary.productId

/-- What a host shows of one of its devices. -/
structure Sighting where
  summary : DeviceSummary
  isReadable : Bool
  /-- Whether the active configuration can be read, has the value one and has an interface zero. -/
  offersInterface : Bool

namespace Sighting

def answers (vendorId productId : UInt16) (sighting : Sighting) : HandleKind → Bool
  | .device => sighting.isReadable && sighting.summary.hasIds vendorId productId
  | .interface =>
    sighting.isReadable && sighting.summary.hasIds vendorId productId && sighting.offersInterface

def firstAnswering (vendorId productId : UInt16) (row : List Sighting) (kind : HandleKind) :
    Option Nat :=
  row.findIdx? fun sighting => sighting.answers vendorId productId kind

def listing (row : List Sighting) : List (DeviceSummary × Nat) :=
  (row.zipIdx.filter fun place => place.1.isReadable).map fun place => (place.1.summary, place.2)

def firstListed (vendorId productId : UInt16) (row : List Sighting) : Option Nat :=
  ((listing row).find? fun entry => entry.1.hasIds vendorId productId).map Prod.snd

theorem listing_fst (row : List Sighting) :
    (listing row).map Prod.fst = (row.filter isReadable).map summary :=
  calc (listing row).map Prod.fst
      = ((row.zipIdx.filter fun place => place.1.isReadable).map Prod.fst).map summary := by
        rw [listing, List.map_map, List.map_map]
        rfl
    _ = ((row.zipIdx.map Prod.fst).filter isReadable).map summary := by
        rw [List.filter_map]
        rfl
    _ = (row.filter isReadable).map summary := by rw [List.zipIdx_map_fst]

theorem firstAnswering_device (vendorId productId : UInt16) (row : List Sighting) :
    firstAnswering vendorId productId row .device = firstListed vendorId productId row := by
  rw [firstAnswering, List.findIdx?_eq_fst_find?_zipIdx, firstListed, listing, List.find?_map,
    List.find?_filter, Option.map_map]
  have same : (fun place : Sighting × Nat => place.1.answers vendorId productId .device) =
      fun place => decide (place.1.isReadable = true ∧
        place.1.summary.hasIds vendorId productId = true) := by
    funext place
    simp [answers]
  exact congrArg (fun holds => (row.zipIdx.find? holds).map Prod.snd) same

theorem firstListed_le {vendorId productId : UInt16} {row : List Sighting} {position : Nat}
    (first : firstAnswering vendorId productId row .interface = some position) :
    ∃ earlier ≤ position, firstListed vendorId productId row = some earlier := by
  obtain ⟨inside, answered, -⟩ := List.findIdx?_eq_some_iff_getElem.mp first
  have listed : row[position].answers vendorId productId .device = true := by
    simp only [answers, Bool.and_eq_true] at answered ⊢
    exact answered.1
  rw [← firstAnswering_device]
  cases found : firstAnswering vendorId productId row .device with
  | none =>
      have none := List.findIdx?_eq_none_iff.mp found _ (List.getElem_mem inside)
      rw [listed] at none
      cases none
  | some earlier =>
      obtain ⟨_, _, before⟩ := List.findIdx?_eq_some_iff_getElem.mp found
      exact ⟨earlier, Nat.le_of_not_lt fun later => before position later listed, rfl⟩

end Sighting

/-- Hosts that have their devices in a row, and lookups that go through it. -/
class Lineup (σ : Type) [NativeLayer σ] where
  row : σ → List Sighting
  entered : σ → List Nat
  ofService : NativeLayer.Service σ → Nat
  ofPlugin : NativeLayer.Plugin σ → Nat
  ofInterface : NativeLayer.Interface σ → Nat
  ofDevice : NativeLayer.Device σ → Nat
  listed : ∀ {host : σ} {summaries after},
    NativeLayer.listDevices host = (.ok summaries, after) →
      summaries = ((row host).filter Sighting.isReadable).map Sighting.summary
  matched : ∀ {host : σ} {summaries after},
    NativeLayer.listDevices host = (.ok summaries, after) →
      ∀ (kind : HandleKind) vendorId productId, ∃ service later,
        NativeLayer.matchService (kind.criteria vendorId productId) host = (.ok service, later) ∧
        service.map ofService = Sighting.firstAnswering vendorId productId (row host) kind ∧
        entered later = entered host
  createPlugin : ∀ (service : NativeLayer.Service σ) serviceClass host,
    entered (NativeLayer.createPlugin service serviceClass host).2 =
        entered host ++ [ofService service] ∧
      ∀ plugin, (NativeLayer.createPlugin service serviceClass host).1 = .ok plugin →
        ofPlugin plugin = ofService service
  queryInterface : ∀ (plugin : NativeLayer.Plugin σ) host,
    entered (NativeLayer.queryInterface plugin host).2 = entered host ∧
      ∀ interface, (NativeLayer.queryInterface plugin host).1.1 = .ok interface →
        ofInterface interface = ofPlugin plugin
  queryDevice : ∀ (plugin : NativeLayer.Plugin σ) host,
    entered (NativeLayer.queryDevice plugin host).2 = entered host ∧
      ∀ device, (NativeLayer.queryDevice plugin host).1.1 = .ok device →
        ofDevice device = ofPlugin plugin
  releasePlugin : ∀ (plugin : NativeLayer.Plugin σ) host,
    entered (NativeLayer.releasePlugin plugin host) = entered host
  openInterface : ∀ (interface : NativeLayer.Interface σ) host,
    entered (NativeLayer.openInterface interface host).2 = entered host ∧
      ∀ opened, (NativeLayer.openInterface interface host).1 = .ok opened →
        ofInterface opened = ofInterface interface
  releaseInterface : ∀ (interface : NativeLayer.Interface σ) host,
    entered (NativeLayer.releaseInterface interface host) = entered host

section

variable {σ : Type} [NativeLayer σ] [Lineup σ]

open Lineup

/-- A lookup went on with one device and with no other: what it found is there, and it found nothing
only where there was none. -/
structure Picks {α : Type} (position : α → Nat) (host : σ) (pick : Option Nat)
    (ended : Except Failure (Option α) × σ) : Prop where
  entered : entered ended.2 = entered host ++ pick.toList
  absent : ended.1 = .ok none ↔ pick = none
  found : ∀ object, ended.1 = .ok (some object) → pick = some (position object)
  failed : ∀ failure, ended.1 = .error failure →
    ∃ step ∈ [NativeStep.createPlugin, .queryInterface, .interfaceOpen],
      failure.step? = some step

variable {host after : σ} {summaries : List DeviceSummary}

theorem Picks.of_none {α : Type} {position : α → Nat} {later : σ}
    (same : Lineup.entered later = Lineup.entered host) :
    Picks position host none ((.ok none : Except Failure (Option α)), later) where
  entered := by simpa using same
  absent := by simp
  found object some := by cases some
  failed failure failed := by cases failed

theorem Picks.of_some {α : Type} {position : α → Nat} {later : σ} {object : α}
    (same : Lineup.entered later = Lineup.entered host ++ [position object]) :
    Picks position host (some (position object))
      ((.ok (some object) : Except Failure (Option α)), later) where
  entered := by simpa using same
  absent := by simp
  found other same := by cases same; rfl
  failed failure failed := by cases failed

theorem Picks.of_error {α : Type} {position : α → Nat} {later : σ} {picked : Nat}
    {step : NativeStep} {cause : NativeFault}
    (same : Lineup.entered later = Lineup.entered host ++ [picked])
    (steps : step ∈ [NativeStep.createPlugin, .queryInterface, .interfaceOpen]) :
    Picks position host (some picked)
      ((.error (.native step cause) : Except Failure (Option α)), later) where
  entered := by simpa using same
  absent := by simp
  found object some := by cases some
  failed failure failed := by
    cases failed
    exact ⟨step, steps, rfl⟩

theorem resolve_picks {α : Type} {position : α → Nat}
    {query : NativeLayer.Plugin σ → σ → (Except NativeFault α × NativeLayer.Plugin σ) × σ}
    (asks : ∀ plugin host, entered (query plugin host).2 = entered host ∧
      ∀ object, (query plugin host).1.1 = .ok object → position object = ofPlugin plugin)
    (lists : NativeLayer.listDevices host = (.ok summaries, after)) (kind : HandleKind)
    (vendorId productId : UInt16) :
    Picks position host
      (Sighting.firstAnswering vendorId productId (row host) kind)
      (Access.resolve (kind.criteria vendorId productId) query host) := by
  obtain ⟨service, later, matching, first, same⟩ := matched lists kind vendorId productId
  unfold Access.resolve
  rw [matching, ← first]
  cases service with
  | none => exact .of_none same
  | some service =>
      rcases created : NativeLayer.createPlugin service
        (kind.criteria vendorId productId).serviceClass later with ⟨answer, opened⟩
      obtain ⟨opens, there⟩ := createPlugin service
        (kind.criteria vendorId productId).serviceClass later
      rw [created] at opens there
      rw [same] at opens
      simp only [created, Option.map_some]
      cases answer with
      | error cause => exact .of_error opens (by simp)
      | ok plugin =>
          have onService := there plugin rfl
          rcases queried : query plugin opened with ⟨⟨reply, left⟩, asked⟩
          obtain ⟨keeps, onPlugin⟩ := asks plugin opened
          rw [queried] at keeps onPlugin
          have released := (releasePlugin left asked).trans (keeps.trans opens)
          simp only [queried]
          cases reply with
          | error cause => exact .of_error released (by simp)
          | ok object =>
              rw [← onService, ← onPlugin object rfl] at released ⊢
              exact .of_some released

theorem findDevice_picks (lists : NativeLayer.listDevices host = (.ok summaries, after))
    (vendorId productId : UInt16) :
    Picks ofDevice host
      (Sighting.firstAnswering vendorId productId (row host) .device)
      (Access.findDevice vendorId productId host) :=
  resolve_picks queryDevice lists .device vendorId productId

theorem findInterface_picks (lists : NativeLayer.listDevices host = (.ok summaries, after))
    (vendorId productId : UInt16) :
    Picks ofInterface host
      (Sighting.firstAnswering vendorId productId (row host) .interface)
      (Access.findInterface vendorId productId host) := by
  have resolved := resolve_picks queryInterface lists .interface vendorId productId
  unfold Access.findInterface
  change Picks _ _ _ (Access.resolve (.interface vendorId productId) _ host) at resolved
  rcases ended : Access.resolve (.interface vendorId productId) NativeLayer.queryInterface host
    with ⟨answer, later⟩
  rw [ended] at resolved
  cases answer with
  | error failure => exact ⟨resolved.entered, by simpa using resolved.absent, by simp,
      resolved.failed⟩
  | ok found =>
      cases found with
      | none => exact resolved
      | some interface =>
          have here := resolved.found interface rfl
          rw [here] at resolved ⊢
          have went : entered later = entered host ++ [ofInterface interface] := resolved.entered
          rcases opening : NativeLayer.openInterface interface later with ⟨reply, opened⟩
          obtain ⟨keeps, same⟩ := openInterface interface later
          rw [opening] at keeps same
          simp only [opening]
          cases reply with
          | error cause =>
              refine .of_error ?_ (by simp)
              rw [releaseInterface, keeps, went]
          | ok object =>
              rw [← same object rfl] at went ⊢
              exact .of_some (keeps.trans went)

end

open Lineup Sighting in
/-- The list and both lookups on one host agree. The list tells the readable devices in order; a
whole device is the first listed one with the identifiers; an interface is on the first readable one
with the identifiers that offers it, and those before it are passed over. -/
structure LookupsAgree {σ : Type} [NativeLayer σ] [Lineup σ] (host : σ)
    (vendorId productId : UInt16) (summaries : List DeviceSummary) : Prop where
  listed : summaries = (listing (row host)).map Prod.fst
  device : Picks ofDevice host (firstListed vendorId productId (row host))
    (Access.findDevice vendorId productId host)
  interface : Picks ofInterface host
    (firstAnswering vendorId productId (row host) .interface)
    (Access.findInterface vendorId productId host)
  earlier : ∀ position, firstAnswering vendorId productId (row host) .interface = some position →
    ∃ other ≤ position, firstListed vendorId productId (row host) = some other

theorem Lineup.lookupsAgree {σ : Type} [NativeLayer σ] [Lineup σ] {host : σ}
    {summaries : List DeviceSummary} (lists : (Access.listDevices host).1 = .ok summaries)
    (vendorId productId : UInt16) : LookupsAgree host vendorId productId summaries := by
  rcases listing : NativeLayer.listDevices host with ⟨answer, after⟩
  simp only [Access.listDevices, listing] at lists
  cases answer with
  | error fault => cases lists
  | ok told =>
      cases lists
      refine ⟨?_, ?_, ?_, ?_⟩
      · rw [Sighting.listing_fst]
        exact listed listing
      · rw [← Sighting.firstAnswering_device]
        exact findDevice_picks listing vendorId productId
      · exact findInterface_picks listing vendorId productId
      · intro position first
        exact Sighting.firstListed_le first

end UsbHost
