import UsbHost.Command.Run
import UsbHost.Proofs.Config.Document
import UsbHost.Proofs.Config.Validation

/-!
Devices told by name. A configuration that was read or loaded is valid, so at most one of its
devices has a given name and the identifiers of that device can be read. Which device a name stands
for does not depend on the order of the devices.
-/

namespace UsbHost

namespace Config

inductive IsObtained : Config → Prop
  | read {text config} (accepted : ofToml text = .ok config) : IsObtained config
  | loaded {path tree config} (loaded : load path tree = .ok config) : IsObtained config
  | standard {surroundings tree config} (loaded : loadStandard surroundings tree = .ok config) :
      IsObtained config
  | expanded {surroundings path tree config}
      (loaded : loadExpanded surroundings path tree = .ok config) : IsObtained config
  | defaulted (surroundings tree) : IsObtained (loadOrDefault surroundings tree)

theorem validate_of_ofToml {text : String} {config : Config} (accepted : ofToml text = .ok config) :
    config.validate = .ok () := by
  unfold ofToml at accepted
  split at accepted
  · cases accepted
  split at accepted
  · cases accepted
  rename_i valid
  cases accepted
  exact valid

theorem validate_of_load {path : String} {tree : FileTree} {config : Config}
    (loaded : load path tree = .ok config) : config.validate = .ok () := by
  unfold load at loaded
  split at loaded
  · cases loaded
  split at loaded
  · cases loaded
  rename_i accepted
  cases loaded
  exact validate_of_ofToml accepted

theorem validate_of_loadStandard {surroundings : Surroundings} {tree : FileTree} {config : Config}
    (loaded : loadStandard surroundings tree = .ok config) : config.validate = .ok () := by
  unfold loadStandard at loaded
  split at loaded
  · cases loaded
  · exact validate_of_load loaded

theorem IsObtained.validate {config : Config} (obtained : config.IsObtained) :
    config.validate = .ok () := by
  cases obtained with
  | read accepted => exact validate_of_ofToml accepted
  | loaded loaded => exact validate_of_load loaded
  | standard loaded => exact validate_of_loadStandard loaded
  | expanded loaded => exact validate_of_load loaded
  | defaulted surroundings tree =>
      unfold loadOrDefault
      split
      · rename_i loaded
        exact validate_of_loadStandard loaded
      · rfl

def devicesNamed (name : String) (config : Config) : List Alias :=
  config.devices.filter fun entry => entry.name == name

variable {config : Config}

theorem mem_devicesNamed {name : String} {entry : Alias} :
    entry ∈ config.devicesNamed name ↔ entry ∈ config.devices ∧ entry.name = name := by
  rw [devicesNamed, List.mem_filter, beq_iff_eq]

theorem find?_eq_head? (name : String) (config : Config) :
    config.find? name = (config.devicesNamed name).head? :=
  (List.head?_filter ..).symm

theorem devicesNamed_eq_nil_or_singleton (wellFormed : config.IsWellFormed) (name : String) :
    config.devicesNamed name = [] ∨ ∃ entry, config.devicesNamed name = [entry] := by
  have apart := wellFormed.distinct.filter fun entry => entry.name == name
  have same : ∀ entry ∈ config.devicesNamed name, entry.name = name :=
    fun entry member => (mem_devicesNamed.mp member).2
  change (config.devicesNamed name).Pairwise _ at apart
  match named : config.devicesNamed name with
  | [] => exact Or.inl rfl
  | [entry] => exact Or.inr ⟨entry, rfl⟩
  | first :: second :: rest =>
      rw [named] at apart same
      have differ := (List.pairwise_cons.mp apart).1 second List.mem_cons_self
      exact absurd ((same first (by simp)).trans (same second (by simp)).symm) differ

theorem IsWellFormed.perm {devices : List Alias} (wellFormed : config.IsWellFormed)
    (perm : devices.Perm config.devices) : IsWellFormed { config with devices } where
  level := wellFormed.level
  named entry member := wellFormed.named entry (perm.mem_iff.mp member)
  distinct := (perm.pairwise_iff Ne.symm).mpr wellFormed.distinct
  identified entry member := wellFormed.identified entry (perm.mem_iff.mp member)

theorem IsWellFormed.find?_perm {devices : List Alias} (wellFormed : config.IsWellFormed)
    (perm : devices.Perm config.devices) (name : String) :
    find? name { config with devices } = config.find? name := by
  have sameNamed : (devicesNamed name { config with devices }).Perm (config.devicesNamed name) :=
    perm.filter _
  rw [find?_eq_head?, find?_eq_head?]
  rcases devicesNamed_eq_nil_or_singleton wellFormed name with none | ⟨entry, one⟩
  · rw [none] at sameNamed ⊢
    rw [sameNamed.eq_nil]
  · rw [one] at sameNamed ⊢
    rw [List.perm_singleton.mp sameNamed]

end Config

namespace Target

variable {config : Config}

theorem resolve_named_of_nil {name : String} (none : config.devicesNamed name = []) :
    resolve (.named name) config = .error (.unknownAlias name) := by
  simp only [resolve, Config.find?_eq_head?, none, List.head?_nil]

theorem resolve_named_of_singleton {name : String} {entry : Alias} {ids : UInt16 × UInt16}
    (one : config.devicesNamed name = [entry]) (read : entry.ids = .ok ids) :
    resolve (.named name) config = .ok ids := by
  simp only [resolve, Config.find?_eq_head?, one, List.head?_cons, read]

theorem resolve_named_cases (wellFormed : config.IsWellFormed) (name : String) :
    (∃ entry ids, config.devicesNamed name = [entry] ∧ entry.ids = .ok ids ∧
        resolve (.named name) config = .ok ids) ∨
      config.devicesNamed name = [] ∧
        resolve (.named name) config = .error (.unknownAlias name) := by
  rcases Config.devicesNamed_eq_nil_or_singleton wellFormed name with none | ⟨entry, one⟩
  · exact Or.inr ⟨none, resolve_named_of_nil none⟩
  · have member : entry ∈ config.devicesNamed name := by simp [one]
    obtain ⟨ids, read⟩ := wellFormed.identified entry (Config.mem_devicesNamed.mp member).1
    exact Or.inl ⟨entry, ids, one, read, resolve_named_of_singleton one read⟩

/-- A name in a configuration that was read or loaded stands for the one device that has it, whose
identifiers can be read, or is unknown. In whatever order the devices are put, the configuration is
still valid and every name stands for the same. -/
theorem names_resolve (obtained : config.IsObtained) (name : String) :
    ((∃ entry ids, config.devicesNamed name = [entry] ∧ entry.ids = .ok ids ∧
          resolve (.named name) config = .ok ids) ∨
        config.devicesNamed name = [] ∧
          resolve (.named name) config = .error (.unknownAlias name) ∧
          (RunFault.unknownAlias name).chain = ["Unknown device alias '" ++ name ++ "'"]) ∧
      (∀ cause, resolve (.named name) config ≠ .error (.badAlias cause)) ∧
      ∀ devices : List Alias, devices.Perm config.devices →
        Config.validate { config with devices } = .ok () ∧
          ∀ other, resolve (.named other) { config with devices } =
            resolve (.named other) config := by
  have wellFormed := Config.validate_eq_ok_iff.mp obtained.validate
  refine ⟨?_, ?_, ?_⟩
  · rcases resolve_named_cases wellFormed name with known | ⟨none, unknown⟩
    · exact Or.inl known
    · exact Or.inr ⟨none, unknown, rfl⟩
  · intro cause failed
    rcases resolve_named_cases wellFormed name with ⟨entry, ids, -, -, resolved⟩ | ⟨-, unknown⟩
    · cases resolved.symm.trans failed
    · cases unknown.symm.trans failed
  · intro devices perm
    refine ⟨Config.validate_eq_ok_iff.mpr (wellFormed.perm perm), fun other => ?_⟩
    simp only [resolve, wellFormed.find?_perm perm other]

def pairedConfig : Config where
  devices := [⟨"stlink", "0x0483", "0x5740", none⟩, ⟨"spare", "0X483", "0x3748", some "second"⟩]

theorem paired_names_resolve :
    pairedConfig.IsObtained ∧
      resolve (.named "jlink") pairedConfig = .error (.unknownAlias "jlink") ∧
      pairedConfig.devices.reverse.Perm pairedConfig.devices ∧
      Config.validate { pairedConfig with devices := pairedConfig.devices.reverse } = .ok () ∧
      resolve (.named "spare") { pairedConfig with devices := pairedConfig.devices.reverse } =
        .ok (0x0483, 0x3748) := by
  have accepted : Config.ofToml pairedConfig.toToml = .ok pairedConfig := by
    have valid : pairedConfig.validate = .ok () := rfl
    rw [Config.ofToml_toToml, valid]
  have obtained : pairedConfig.IsObtained := .read accepted
  have perm : pairedConfig.devices.reverse.Perm pairedConfig.devices := List.reverse_perm _
  have kept := (names_resolve obtained "jlink").2.2 _ perm
  refine ⟨obtained, ?_, perm, kept.1, ?_⟩
  · rcases (names_resolve obtained "jlink").1 with ⟨entry, ids, one, -⟩ | ⟨-, unknown, -⟩
    · have none : pairedConfig.devicesNamed "jlink" = [] := rfl
      cases none.symm.trans one
    · exact unknown
  · rw [kept.2]
    rfl

end Target

end UsbHost
