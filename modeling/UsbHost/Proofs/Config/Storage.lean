import UsbHost.Proofs.Config.Document
import UsbHost.Proofs.Files.Tree
import UsbHost.Config.Storage

/-!
Saving loses nothing: the file that was saved holds the document of the configuration, and loading
it gives the configuration back or tells its fault.
-/

namespace UsbHost.Config

theorem write_of_ended {path : String} {content : ByteArray} {before after : FileTree}
    (ended : (match before.write path content with
      | .error cause => .error (SaveFault.unwritable path cause)
      | .ok tree => .ok tree) = Except.ok after) : before.write path content = .ok after := by
  split at ended
  next cause failed => cases ended
  next tree written =>
    cases ended
    exact written

theorem write_of_save {path : String} {config : Config} {tree after : FileTree}
    (saved : config.save path tree = .ok after) :
    ∃ before : FileTree, before.write path config.toToml.toUTF8 = .ok after := by
  dsimp only [save] at saved
  split at saved
  next alone => exact ⟨tree, write_of_ended saved⟩
  next outer above =>
    split at saved
    next cause failed => cases saved
    next made through => exact ⟨made, write_of_ended saved⟩

theorem read_saved {path : String} {config : Config} {tree after : FileTree}
    (saved : config.save path tree = .ok after) : after.read path = .ok config.toToml := by
  obtain ⟨before, written⟩ := write_of_save saved
  exact FileTree.read_write written

/-- A configuration that was saved loads as it was if it is valid; otherwise loading tells the fault
that validation finds, and the path. -/
theorem load_saved (config : Config) :
    (ofToml config.toToml =
      match config.validate with
      | .ok () => .ok config
      | .error fault => .error (.invalid fault)) ∧
    ∀ path tree after, config.save path tree = .ok after →
      (config.validate = .ok () → load path after = .ok config) ∧
      ∀ fault, config.validate = .error fault →
        load path after = .error (.rejected path (.invalid fault)) ∧
          (LoadFault.rejected path (.invalid fault)).chain =
            ["Failed to parse config file: " ++ path, fault.message] := by
  refine ⟨ofToml_toToml config, fun path tree after saved => ⟨fun valid => ?_, fun fault faulty =>
    ⟨?_, rfl⟩⟩⟩
  · have accepted : ofToml config.toToml = .ok config := by rw [ofToml_toToml, valid]
    rw [load, read_saved saved]
    simp only [accepted]
  · have refused : ofToml config.toToml = .error (.invalid fault) := by rw [ofToml_toToml, faulty]
    rw [load, read_saved saved]
    simp only [refused]

def quotedConfig : Config where
  logLevel := "warn"
  devices := [
    ⟨"stlink", "0x0483", "0x5740", some ""⟩,
    ⟨"\"\\\"", "0x0483", "0x5741", none⟩,
    ⟨"it's\n\"\"", "0x1", "0xffff", some "'\"\"\"\r"⟩,
    ⟨"\n'\\", "0x1", "0xffff", none⟩]

def shadowedConfig : Config where
  devices := [⟨"probe", "0x0483", "0x5740", none⟩, ⟨"probe", "0x0483", "0x5741", none⟩]

theorem quoted_texts_load_saved :
    ∃ quoted shadowed,
      quotedConfig.save "usb/config.toml" { working := [] } = .ok quoted ∧
      shadowedConfig.save "usb/config.toml" { working := [] } = .ok shadowed ∧
      load "usb/config.toml" quoted = .ok quotedConfig ∧
      load "usb/config.toml" shadowed =
        .error (.rejected "usb/config.toml" (.invalid (.duplicateName "probe"))) := by
  have made : FileTree.makeDirectories "usb" { working := [] } =
      .ok ⟨[], [(["usb"], .directory)]⟩ := by
    have sound : FileTree.pathFault? "usb" = none :=
      FileTree.pathFault?_eq_none (by decide) (by decide) (by decide +kernel)
    have pieces : Path.pieces "usb" = ["usb"] := by decide +kernel
    have relative : Path.isAbsolute "usb" = false := by decide +kernel
    have short : FileTree.isTooLong "usb" = false := by decide +kernel
    simp [FileTree.makeDirectories, FileTree.makeDirectoriesWithin, FileTree.makeDirectory,
      FileTree.resolveLast, sound, pieces, FileTree.walk, FileTree.step, FileTree.node?,
      FileTree.start, relative, Path.isIdle, FileTree.isName, short, FileTree.put]
  have written (content : ByteArray) :
      (⟨[], [(["usb"], .directory)]⟩ : FileTree).write "usb/config.toml" content =
        .ok ⟨[], [(["usb", "config.toml"], .file content), (["usb"], .directory)]⟩ := by
    have sound : FileTree.pathFault? "usb/config.toml" = none :=
      FileTree.pathFault?_eq_none (by decide) (by decide) (by decide +kernel)
    have pieces : Path.pieces "usb/config.toml" = ["usb", "config.toml"] := by decide +kernel
    have relative : Path.isAbsolute "usb/config.toml" = false := by decide +kernel
    have short : FileTree.isTooLong "usb" = false := by decide +kernel
    have led : (⟨[], [(["usb"], .directory)]⟩ : FileTree).resolveLast "usb/config.toml" =
        .ok (["usb"], "config.toml") := by
      simp [FileTree.resolveLast, sound, pieces, FileTree.walk, FileTree.step, FileTree.node?,
        FileTree.start, relative, Path.isIdle, short, bind, Except.bind, pure, Except.pure]
    have unslashed : "usb/config.toml".endsWith "/" = false := by decide +kernel
    have fits : FileTree.isTooLong "config.toml" = false := by decide +kernel
    simp [FileTree.write, led, unslashed, fits, FileTree.node?, Path.isIdle, FileTree.isName,
      FileTree.put, List.lookup_cons]
  have saves (config : Config) : config.save "usb/config.toml" { working := [] } =
      .ok ⟨[], [(["usb", "config.toml"], .file config.toToml.toUTF8), (["usb"], .directory)]⟩ := by
    have above : Path.parent? "usb/config.toml" = some "usb" := by decide +kernel
    simp only [save, above, made, written]
  have valid : quotedConfig.validate = .ok () := by rfl
  have faulty : shadowedConfig.validate = .error (.duplicateName "probe") := by rfl
  exact ⟨_, _, saves _, saves _, ((load_saved quotedConfig).2 _ _ _ (saves _)).1 valid,
    (((load_saved shadowedConfig).2 _ _ _ (saves _)).2 _ faulty).1⟩

end UsbHost.Config
