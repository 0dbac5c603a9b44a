import UsbHost.Config.Basic

/-!
Validation of configurations. A configuration is gone through from its log level to the last check
of its last device; it is accepted if nothing on the way is wrong, and otherwise the first thing
that is wrong is told.
-/

namespace UsbHost

inductive AliasCheck where
  | named
  | distinct
  | vendor
  | product

namespace AliasCheck

def turn : AliasCheck → Nat
  | named => 0
  | distinct => 1
  | vendor => 2
  | product => 3

theorem turn_le (check : AliasCheck) : check.turn ≤ 3 := by
  cases check <;> decide

theorem turn_inj {check other : AliasCheck} (same : check.turn = other.turn) : check = other := by
  cases check <;> cases other <;> first | rfl | cases same

end AliasCheck

inductive ConfigPlace where
  | level
  | device (index : Nat) (check : AliasCheck)

namespace ConfigPlace

def IsBefore : ConfigPlace → ConfigPlace → Prop
  | _, level => False
  | level, device _ _ => True
  | device index check, device later other =>
    index < later ∨ index = later ∧ check.turn < other.turn

def next : ConfigPlace → ConfigPlace
  | level => device 0 .named
  | device index .named => device index .distinct
  | device index .distinct => device index .vendor
  | device index .vendor => device index .product
  | device index .product => device (index + 1) .named

theorem next_device (index : Nat) (check : AliasCheck) :
    (∃ later, (device index check).next = device index later ∧ later.turn = check.turn + 1) ∨
      (device index check).next = device (index + 1) .named ∧ check.turn = 3 := by
  cases check with
  | named | distinct | vendor => exact Or.inl ⟨_, rfl, rfl⟩
  | product => exact Or.inr ⟨rfl, rfl⟩

theorem isBefore_or_eq_of_next {place other : ConfigPlace} (before : other.IsBefore place.next) :
    other.IsBefore place ∨ other = place := by
  cases other with
  | level =>
      cases place with
      | level => exact Or.inr rfl
      | device => exact Or.inl trivial
  | device earlier other =>
      have last := other.turn_le
      have first : AliasCheck.named.turn = 0 := rfl
      cases place with
      | level =>
          simp only [next, IsBefore] at before
          omega
      | device index check =>
          have reached : earlier < index ∨ earlier = index ∧ other.turn ≤ check.turn := by
            rcases next_device index check with ⟨later, next, turn⟩ | ⟨next, turn⟩
            · simp only [next, IsBefore] at before
              omega
            · simp only [next, IsBefore] at before
              omega
          by_cases same : earlier = index ∧ other.turn = check.turn
          · right
            rw [same.1, AliasCheck.turn_inj same.2]
          · left
            simp only [IsBefore]
            omega

theorem eq_of_not_isBefore {place other : ConfigPlace} (notBefore : ¬place.IsBefore other)
    (notAfter : ¬other.IsBefore place) : place = other := by
  cases place with
  | level =>
      cases other with
      | level => rfl
      | device => exact absurd trivial notBefore
  | device index check =>
      cases other with
      | level => exact absurd trivial notAfter
      | device later other =>
          simp only [IsBefore] at notBefore notAfter
          have sameIndex : index = later := by omega
          have sameCheck : check = other := AliasCheck.turn_inj (by omega)
          rw [sameIndex, sameCheck]

end ConfigPlace

/-- What a check finds wrong with a device that comes after others of these names. -/
inductive Alias.Breaks (entry : Alias) (names : List String) : AliasCheck → ConfigFault → Prop
  | named (empty : entry.name = "") : Breaks entry names .named .emptyName
  | distinct (taken : entry.name ∈ names) :
      Breaks entry names .distinct (.duplicateName entry.name)
  | vendor {fault} (unread : readId "VID" entry.vendorId = .error fault) :
      Breaks entry names .vendor (.badId fault)
  | product {fault} (unread : readId "PID" entry.productId = .error fault) :
      Breaks entry names .product (.badId fault)

namespace Alias

variable {entry : Alias}

theorem Breaks.unique {names : List String} {check : AliasCheck} {fault other : ConfigFault}
    (breaks : entry.Breaks names check fault) (too : entry.Breaks names check other) :
    fault = other := by
  cases breaks with
  | named | distinct =>
      cases too
      rfl
  | vendor unread =>
      cases too with
      | vendor unreadToo =>
          cases unread.symm.trans unreadToo
          rfl
  | product unread =>
      cases too with
      | product unreadToo =>
          cases unread.symm.trans unreadToo
          rfl

theorem ids_eq_ok_iff : (∃ ids, entry.ids = .ok ids) ↔
    (∃ vendorId, readId "VID" entry.vendorId = .ok vendorId) ∧
      ∃ productId, readId "PID" entry.productId = .ok productId := by
  simp only [ids, IdKind.name]
  cases readId "VID" entry.vendorId with
  | error fault => simp
  | ok vendorId =>
      cases readId "PID" entry.productId with
      | error fault => simp
      | ok productId => simp

end Alias

namespace Config

inductive Breaks (config : Config) : ConfigPlace → ConfigFault → Prop
  | level (unlisted : config.logLevel ∉ ["trace", "debug", "info", "warn", "error"]) :
      Breaks config .level (.badLogLevel config.logLevel)
  | device {index entry check fault} (found : config.devices[index]? = some entry)
      (breaks : entry.Breaks ((config.devices.take index).map Alias.name) check fault) :
      Breaks config (.device index check) fault

def IsClearBefore (config : Config) (place : ConfigPlace) : Prop :=
  ∀ other fault, config.Breaks other fault → ¬other.IsBefore place

def BreaksFirst (config : Config) (fault : ConfigFault) : Prop :=
  ∃ place, config.Breaks place fault ∧ config.IsClearBefore place

structure IsWellFormed (config : Config) : Prop where
  level : config.logLevel ∈ ["trace", "debug", "info", "warn", "error"]
  named : ∀ entry ∈ config.devices, entry.name ≠ ""
  distinct : config.devices.Pairwise fun earlier later => earlier.name ≠ later.name
  identified : ∀ entry ∈ config.devices, ∃ ids, entry.ids = .ok ids

variable {config : Config} {index : Nat} {entry : Alias} {check : AliasCheck}

theorem breaks_device_iff (found : config.devices[index]? = some entry) {fault : ConfigFault} :
    config.Breaks (.device index check) fault ↔
      entry.Breaks ((config.devices.take index).map Alias.name) check fault := by
  constructor
  · intro breaks
    cases breaks with
    | device foundToo breaks =>
        cases found.symm.trans foundToo
        exact breaks
  · exact .device found

theorem Breaks.unique {place : ConfigPlace} {fault other : ConfigFault}
    (breaks : config.Breaks place fault) (too : config.Breaks place other) : fault = other := by
  cases breaks with
  | level =>
      cases too
      rfl
  | device found breaks => exact breaks.unique ((breaks_device_iff found).mp too)

theorem BreaksFirst.unique {fault other : ConfigFault} (first : config.BreaksFirst fault)
    (too : config.BreaksFirst other) : fault = other := by
  obtain ⟨place, breaks, clear⟩ := first
  obtain ⟨otherPlace, otherBreaks, otherClear⟩ := too
  have same : place = otherPlace :=
    ConfigPlace.eq_of_not_isBefore (otherClear _ _ breaks) (clear _ _ otherBreaks)
  subst same
  exact breaks.unique otherBreaks

theorem IsClearBefore.next {place : ConfigPlace} (clear : config.IsClearBefore place)
    (sound : ∀ fault, ¬config.Breaks place fault) : config.IsClearBefore place.next := by
  intro other fault breaks before
  rcases ConfigPlace.isBefore_or_eq_of_next before with earlier | rfl
  · exact clear other fault breaks earlier
  · exact sound fault breaks

theorem IsClearBefore.pass (clear : config.IsClearBefore (.device index check))
    (found : config.devices[index]? = some entry)
    (sound : ∀ fault, ¬entry.Breaks ((config.devices.take index).map Alias.name) check fault) :
    config.IsClearBefore (ConfigPlace.device index check).next :=
  clear.next fun fault breaks => sound fault ((breaks_device_iff found).mp breaks)

theorem IsClearBefore.all (clear : config.IsClearBefore (.device config.devices.length .named))
    (place : ConfigPlace) (fault : ConfigFault) : ¬config.Breaks place fault := by
  intro breaks
  refine clear place fault breaks ?_
  cases breaks with
  | level => trivial
  | device found breaks => exact Or.inl (List.getElem?_eq_some_iff.mp found).1

def ScansTo (config : Config) : Except ConfigFault Unit → Prop
  | .ok () => ∀ place fault, ¬config.Breaks place fault
  | .error first => config.BreaksFirst first

theorem validateAliases_scansTo {before rest : List Alias} {seen : List String}
    (split : config.devices = before ++ rest)
    (known : ∀ name, name ∈ seen ↔ name ∈ before.map Alias.name)
    (clear : config.IsClearBefore (.device before.length .named)) :
    config.ScansTo (validateAliases seen rest) := by
  induction rest generalizing before seen with
  | nil =>
      rw [List.append_nil] at split
      exact IsClearBefore.all (split ▸ clear)
  | cons entry rest ih =>
      have found : config.devices[before.length]? = some entry := by simp [split]
      have names : (config.devices.take before.length).map Alias.name = before.map Alias.name := by
        simp [split]
      rw [validateAliases]
      -- A check that finds something ends the scan where it is; any other moves the clear part on.
      by_cases empty : entry.name = ""
      · rw [if_pos empty]
        exact ⟨_, .device found (.named empty), clear⟩
      rw [if_neg empty]
      have clear := clear.pass found fun fault => fun | .named isEmpty => empty isEmpty
      by_cases taken : entry.name ∈ seen
      · rw [if_pos taken]
        have repeated : entry.name ∈ (config.devices.take before.length).map Alias.name := by
          rw [names]
          exact (known entry.name).mp taken
        exact ⟨_, .device found (.distinct repeated), clear⟩
      rw [if_neg taken]
      have clear := clear.pass found fun fault => fun
        | .distinct repeated => taken ((known entry.name).mpr (names ▸ repeated))
      rw [Alias.ids]
      cases vendor : readId IdKind.vendor.name entry.vendorId with
      | error fault => exact ⟨_, .device found (.vendor vendor), clear⟩
      | ok vendorId =>
          have clear := clear.pass found fun fault => fun
            | .vendor unread => nomatch vendor.symm.trans unread
          cases product : readId IdKind.product.name entry.productId with
          | error fault => exact ⟨_, .device found (.product product), clear⟩
          | ok productId =>
              have clear : config.IsClearBefore (.device (before.length + 1) .named) :=
                clear.pass found fun fault => fun
                  | .product unread => nomatch product.symm.trans unread
              have split : config.devices = (before ++ [entry]) ++ rest := by simpa using split
              refine ih split ?_ (by simpa using clear)
              intro name
              rw [List.mem_cons, known, List.map_append, List.mem_append, or_comm]
              simp

theorem validate_scansTo (config : Config) : config.ScansTo config.validate := by
  have start : config.IsClearBefore .level := by
    intro place fault breaks before
    cases place <;> exact before
  rw [validate]
  by_cases listed : config.logLevel ∈ logLevels
  · rw [if_pos listed]
    have clear := start.next fun fault => fun | .level unlisted => unlisted listed
    exact validateAliases_scansTo (List.nil_append _).symm (by simp) clear
  · rw [if_neg listed]
    exact ⟨.level, .level listed, start⟩

theorem pairwise_name_iff {devices : List Alias} :
    (devices.Pairwise fun earlier later => earlier.name ≠ later.name) ↔
      ∀ index entry, devices[index]? = some entry →
        entry.name ∉ (devices.take index).map Alias.name := by
  constructor
  · intro distinct index entry found taken
    obtain ⟨bound, rfl⟩ := List.getElem?_eq_some_iff.mp found
    obtain ⟨other, member, same⟩ := List.mem_map.mp taken
    obtain ⟨earlier, below, rfl⟩ := List.mem_take_iff_getElem.mp member
    exact List.pairwise_iff_getElem.mp distinct earlier index _ bound (by omega) same
  · intro fresh
    rw [List.pairwise_iff_getElem]
    intro earlier later below bound before same
    apply fresh later _ (List.getElem?_eq_getElem bound)
    rw [← same]
    exact List.mem_map_of_mem (List.mem_take_iff_getElem.mpr ⟨earlier, by omega, rfl⟩)

theorem isWellFormed_iff :
    config.IsWellFormed ↔ ∀ place fault, ¬config.Breaks place fault := by
  constructor
  · rintro wellFormed place fault (unlisted | @⟨index, entry, check, fault, found, breaks⟩)
    · exact unlisted wellFormed.level
    have member := List.mem_of_getElem? found
    obtain ⟨⟨vendorId, vendor⟩, productId, product⟩ :=
      Alias.ids_eq_ok_iff.mp (wellFormed.identified entry member)
    cases breaks with
    | named empty => exact wellFormed.named entry member empty
    | distinct taken => exact pairwise_name_iff.mp wellFormed.distinct index entry found taken
    | vendor unread => cases vendor.symm.trans unread
    | product unread => cases product.symm.trans unread
  · intro sound
    refine ⟨?_, ?_, ?_, ?_⟩
    · exact Decidable.byContradiction fun unlisted => sound _ _ (.level unlisted)
    · intro entry member empty
      obtain ⟨index, found⟩ := List.mem_iff_getElem?.mp member
      exact sound _ _ (.device found (.named empty))
    · refine pairwise_name_iff.mpr fun index entry found taken => ?_
      exact sound _ _ (.device found (.distinct taken))
    · intro entry member
      obtain ⟨index, found⟩ := List.mem_iff_getElem?.mp member
      rw [Alias.ids_eq_ok_iff]
      constructor
      · cases vendor : readId "VID" entry.vendorId with
        | error fault => exact absurd (.device found (.vendor vendor)) (sound _ _)
        | ok vendorId => exact ⟨vendorId, rfl⟩
      · cases product : readId "PID" entry.productId with
        | error fault => exact absurd (.device found (.product product)) (sound _ _)
        | ok productId => exact ⟨productId, rfl⟩

theorem validate_eq_ok_iff : config.validate = .ok () ↔ config.IsWellFormed := by
  have scans := validate_scansTo config
  rw [isWellFormed_iff]
  cases validated : config.validate with
  | ok =>
      rw [validated] at scans
      exact iff_of_true rfl scans
  | error first =>
      rw [validated] at scans
      obtain ⟨place, breaks, clear⟩ := scans
      exact iff_of_false nofun fun sound => sound place first breaks

/-- A configuration is accepted exactly if it is well formed. Any other is refused with the fault at
the first place where something is wrong: its log level, and then device after device an empty name,
a name that an earlier device has, the vendor and the product. -/
theorem validate_tells_first_fault (config : Config) :
    (config.validate = .ok () ↔ config.IsWellFormed) ∧
      ∀ fault, config.validate = .error fault ↔ config.BreaksFirst fault := by
  refine ⟨validate_eq_ok_iff, fun fault => ?_⟩
  have scans := validate_scansTo config
  cases validated : config.validate with
  | ok =>
      rw [validated] at scans
      refine iff_of_false nofun ?_
      rintro ⟨place, breaks, -⟩
      exact scans place fault breaks
  | error first =>
      rw [validated] at scans
      constructor
      · rintro ⟨⟩
        exact scans
      · intro breaks
        rw [breaks.unique scans]

example : validate { devices := [⟨"probe", "0x0483", "0x5740", none⟩, ⟨"probe", "0483", "0x", none⟩,
    ⟨"", "0x0483", "0x5740", none⟩] } = .error (.duplicateName "probe") := rfl

end Config

end UsbHost
