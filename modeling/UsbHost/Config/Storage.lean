import UsbHost.Config.Document
import UsbHost.Files.Tree

/-!
Where configurations are kept: the places that are looked at, and loading and saving with the path
told in every fault.
-/

namespace UsbHost

structure Surroundings where
  home : String
  /-- The directory for configurations, if one is set; only an absolute path counts. -/
  configHome : Option String := none
deriving DecidableEq

inductive LoadFault where
  | noFile
  | unreadable (path : String) (cause : FileFault)
  | rejected (path : String) (cause : DocumentFault)
deriving DecidableEq

def LoadFault.chain : LoadFault → List String
  | noFile => ["No configuration file found, using defaults"]
  | unreadable path cause => ["Failed to read config file: " ++ path, cause.message]
  | rejected path cause => ["Failed to parse config file: " ++ path, cause.message]

inductive SaveFault where
  | noDirectory (path : String) (cause : FileFault)
  | unwritable (path : String) (cause : FileFault)
deriving DecidableEq

def SaveFault.chain : SaveFault → List String
  | noDirectory path cause => ["Failed to create config directory: " ++ path, cause.message]
  | unwritable path cause => ["Failed to write config file: " ++ path, cause.message]

def Surroundings.configDirectory (surroundings : Surroundings) : String :=
  match surroundings.configHome with
  | none => Path.join surroundings.home ".config"
  | some path =>
    if Path.isAbsolute path then path else Path.join surroundings.home ".config"

namespace Config

def defaultPath (surroundings : Surroundings) : String :=
  Path.join (Path.join surroundings.configDirectory "usb-adapter") "config.toml"

def systemPath : String := "/etc/usb-adapter/config.toml"

def load (path : String) (tree : FileTree) : Except LoadFault Config :=
  match tree.read path with
  | .error cause => .error (.unreadable path cause)
  | .ok text =>
    match ofToml text with
    | .error cause => .error (.rejected path cause)
    | .ok config => .ok config

def loadStandard (surroundings : Surroundings) (tree : FileTree) : Except LoadFault Config :=
  match [defaultPath surroundings, systemPath].find? fun path => tree.isFound path with
  | none => .error .noFile
  | some path => load path tree

def loadOrDefault (surroundings : Surroundings) (tree : FileTree) : Config :=
  match loadStandard surroundings tree with
  | .ok config => config
  | .error _ => {}

def loadExpanded (surroundings : Surroundings) (path : String) (tree : FileTree) :
    Except LoadFault Config :=
  load (Path.expandHome surroundings.home path) tree

/-- Writes the configuration, and makes the directories above the file. It need not be valid. -/
def save (path : String) (config : Config) (tree : FileTree) : Except SaveFault FileTree :=
  let write (tree : FileTree) :=
    match tree.write path config.toToml.toUTF8 with
    | .error cause => .error (.unwritable path cause)
    | .ok tree => .ok tree
  match Path.parent? path with
  | none => write tree
  | some outer =>
    match tree.makeDirectories outer with
    | .error cause => .error (.noDirectory outer cause)
    | .ok tree => write tree

end Config

end UsbHost
